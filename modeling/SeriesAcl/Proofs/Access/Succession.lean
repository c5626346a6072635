import SeriesAcl.Proofs.Access.Switching

/-!
# Switches one after another

A switch takes the row of the switch before it away, so that of several switches only the last one
counts (`group_switch_switch`). The template of the organization is an exception for callers without
an organization: the placeholder stays in its role, which then is no template role, so that its
entries outlast later switches (`group_switch_again`).
-/

namespace SeriesAcl.Policy

variable {field : String} {org : Option String}

/-- The entries about roles outside the template roles. -/
def outsideEntries (org : Option String) (entries : List Entry) : List Entry :=
  entries.filter fun e ↦ !Role.isTemplateRole e.role org

/-! ### Rows outside the template roles -/

private theorem isOutside_of_role {p : Policy} {role : String} (hr : p.role = some role) :
    p.isOutside org = !Role.isTemplateRole role org := by
  rw [isOutside, hr, Option.any_some]

/-- An entry about a template role does not reach the rows outside, and any other entry reaches no
row but these. -/
theorem filter_isOutside_absorb (e : Entry) (rows : List Policy) :
    (absorb field e rows).filter (isOutside org) =
      if Role.isTemplateRole e.role org = true then rows.filter (isOutside org)
      else absorb field e (rows.filter (isOutside org)) := by
  have hnew : ∀ p : Policy, p.role = some e.role →
      (p.apply e).isOutside org = !Role.isTemplateRole e.role org :=
    fun p hp ↦ isOutside_of_role ((role_apply p e).trans hp)
  induction rows with
  | nil =>
    have hblank := hnew (blank (some e.role) field) rfl
    by_cases ht : Role.isTemplateRole e.role org = true <;> simp [absorb, hblank, ht]
  | cons p rest ih =>
    by_cases hp : p.role = some e.role
    · have hown := hnew p hp
      have hold : p.isOutside org = !Role.isTemplateRole e.role org := isOutside_of_role hp
      by_cases ht : Role.isTemplateRole e.role org = true <;>
        simp [absorb, hp, hown, hold, ht]
    · rw [absorb, if_neg hp]
      cases ho : p.isOutside org with
      | true =>
        rw [List.filter_cons_of_pos ho, List.filter_cons_of_pos ho, ih, absorb, if_neg hp]
        split <;> rfl
      | false =>
        rw [List.filter_cons_of_neg (by simp [ho]), List.filter_cons_of_neg (by simp [ho]), ih]

/-- The rows outside the template roles are those of the entries outside. -/
theorem filter_isOutside_group (entries : List Entry) :
    (group entries field).filter (isOutside org) = group (outsideEntries org entries) field := by
  induction entries using List.reverseRecOn with
  | nil => rfl
  | append_singleton rest e ih =>
    rw [group_concat, filter_isOutside_absorb, ih, outsideEntries, outsideEntries,
      List.filter_append]
    by_cases ht : Role.isTemplateRole e.role org = true
    · rw [if_pos ht, List.filter_cons_of_neg (by simp [ht]), List.filter_nil, List.append_nil]
    · rw [if_neg ht, List.filter_cons_of_pos (by simp [ht]), List.filter_nil, group_concat]

/-- Lists with the same rows have the same rows after the same further entries. -/
theorem group_append_congr {xs ys : List Entry} (h : group xs field = group ys field)
    (zs : List Entry) : group (xs ++ zs) field = group (ys ++ zs) field := by
  unfold group at h ⊢
  rw [List.foldl_append, List.foldl_append, h]

/-! ### Entries of a switch -/

private theorem outsideEntries_kept (rows : List Policy) :
    outsideEntries org (rows.flatMap (keptEntries org)) = rows.flatMap (keptEntries org) := by
  apply List.filter_eq_self.mpr
  intro e he
  obtain ⟨p, -, he⟩ := List.mem_flatMap.mp he
  rw [(role_of_mem_keptEntries he).2]
  rfl

private theorem outsideEntries_expand {t : Template} (ht : t ∈ Template.custom :: Template.catalog)
    (ho : t.Resolves org) (flags : Flags) : outsideEntries org (t.expand org flags) = [] := by
  apply List.filter_eq_nil_iff.mpr
  intro e he
  rw [isTemplateRole_of_mem_expand ht ho he]
  decide

/-- A template that does not resolve speaks for a role with the placeholder, which is outside the
template roles. -/
theorem outsideEntries_expand_of_not_resolves {t : Template}
    (ht : t ∈ Template.custom :: Template.catalog) (ho : ¬t.Resolves org) (flags : Flags) :
    outsideEntries org (t.expand org flags) = t.expand org flags := by
  obtain ⟨hrole, hnone⟩ : t.role = some Template.orgRole ∧ org = none := by
    unfold Template.Resolves at ho
    simpa using ho
  subst hnone
  have hcatalog : t ∈ Template.catalog := by
    rcases List.mem_cons.mp ht with rfl | h
    · cases hrole
    · exact h
  have hfor : t.roleFor none = some Template.orgRole := by
    rw [Template.roleFor, hrole]
    rfl
  apply List.filter_eq_self.mpr
  rw [Template.expand_eq hcatalog hfor]
  intro e he
  obtain ⟨a, -, rfl⟩ := List.mem_map.mp he
  exact (by decide : (!Role.isTemplateRole Template.orgRole none) = true)

/-- Of an earlier switch a later one keeps what is outside the template roles. -/
theorem group_switch_again (rows : List Policy) (a b : Template) (f g : Flags) :
    group (switchEntries (group (switchEntries rows a org f) field) b org g) field =
      group (rows.flatMap (keptEntries org) ++ outsideEntries org (a.expand org f) ++
        b.expand org g) field := by
  apply group_append_congr
  rw [group_kept (tidied_group _), filter_isOutside_group, switchEntries, outsideEntries,
    List.filter_append]
  congr 2
  exact outsideEntries_kept rows

/-- Of two switches only the second one counts. Only the template of the organization outlasts it
for a caller without one: its entries stay with those of the other roles. -/
theorem group_switch_switch (rows : List Policy) {a : Template}
    (ha : a ∈ Template.custom :: Template.catalog) (b : Template) (org : Option String)
    (f g : Flags) (field : String) :
    (a.Resolves org →
      group (switchEntries (group (switchEntries rows a org f) field) b org g) field =
        group (switchEntries rows b org g) field) ∧
    (¬a.Resolves org →
      group (switchEntries (group (switchEntries rows a org f) field) b org g) field =
        group (rows.flatMap (keptEntries org) ++ a.expand org f ++ b.expand org g) field) := by
  constructor
  · intro ho
    rw [group_switch_again, outsideEntries_expand ha ho, List.append_nil, switchEntries]
  · intro ho
    rw [group_switch_again, outsideEntries_expand_of_not_resolves ha ho]

/-- The template for the members of the caller's organization. -/
def organizationSeries : Template :=
  Template.make 3 "organization" (some Template.orgRole) Template.listedActions

/-- The organization template finds its role exactly where the organization is known. -/
theorem organizationSeries_resolves_iff :
    organizationSeries.Resolves org ↔ org.isSome = true :=
  ⟨fun h ↦ h rfl, fun h _ ↦ h⟩

/-- A caller without an organization who switches to its template and then to that for private
series keeps the row of the role with the placeholder. -/
theorem not_switch_switch_placeholder :
    ¬∀ (rows : List Policy) (a b : Template) (org : Option String) (f g : Flags),
      a ∈ Template.custom :: Template.catalog → b ∈ Template.custom :: Template.catalog →
      group (switchEntries (group (switchEntries rows a org f) seriesField) b org g) seriesField =
        group (switchEntries rows b org g) seriesField := by
  intro h
  have heq := h [] organizationSeries Template.privateSeries none Flags.none Flags.none (by decide)
    (by decide)
  revert heq
  decide

/-- With an organization the template in between leaves nothing, without one it leaves its row. -/
theorem group_switch_switch_organization :
    organizationSeries ∈ Template.custom :: Template.catalog ∧
      organizationSeries.Resolves (some "uzh.ch") ∧
      group (switchEntries (group (switchEntries [readWrite "ROLE_A" seriesField]
        organizationSeries (some "uzh.ch") ⟨true, false⟩) seriesField) Template.privateSeries
          (some "uzh.ch") Flags.none) seriesField =
        group (switchEntries [readWrite "ROLE_A" seriesField] Template.privateSeries
          (some "uzh.ch") Flags.none) seriesField ∧
      ¬organizationSeries.Resolves none ∧
      group (switchEntries (group (switchEntries [readWrite "ROLE_A" seriesField]
        organizationSeries none ⟨true, false⟩) seriesField) Template.privateSeries none Flags.none)
          seriesField =
        group ([readWrite "ROLE_A" seriesField].flatMap (keptEntries none) ++
          organizationSeries.expand none ⟨true, false⟩ ++
          Template.privateSeries.expand none Flags.none) seriesField :=
  have hmem : organizationSeries ∈ Template.custom :: Template.catalog := by decide
  have hknown : organizationSeries.Resolves (some "uzh.ch") :=
    organizationSeries_resolves_iff.mpr rfl
  have hunknown : ¬organizationSeries.Resolves none := fun h ↦
    absurd (organizationSeries_resolves_iff.mp h) (by decide)
  ⟨hmem, hknown,
    (group_switch_switch [readWrite "ROLE_A" seriesField] hmem Template.privateSeries
      (some "uzh.ch") ⟨true, false⟩ Flags.none seriesField).1 hknown,
    hunknown,
    (group_switch_switch [readWrite "ROLE_A" seriesField] hmem Template.privateSeries none
      ⟨true, false⟩ Flags.none seriesField).2 hunknown⟩

end SeriesAcl.Policy
