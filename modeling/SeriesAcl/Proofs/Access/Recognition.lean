import SeriesAcl.Proofs.Access.Succession

/-!
# Recognizing a switched list

Of a list that was switched to a template, the rows of template roles are those that the template
makes (`filter_isInside_group_switch`), whatever rows there were before. So the list is classified
as the template with its flags, and it has a single row of a template role; switched to the sentinel
it has none and is custom (`classify_group_switch`).
-/

namespace SeriesAcl.Policy

variable {field : String} {org : Option String}

/-- Whether a row names a template role. -/
def isInside (org : Option String) (p : Policy) : Bool :=
  p.role.any fun role ↦ Role.isTemplateRole role org

/-- A row is inside the templates by its role. -/
theorem isInside_of_role {p : Policy} {role : String} (h : p.role = some role) :
    p.isInside org = Role.isTemplateRole role org := by
  rw [isInside, h, Option.any_some]

/-- The rows of a template all name template roles. -/
theorem filter_isInside_group_expand {t : Template} (ht : t ∈ Template.custom :: Template.catalog)
    (ho : t.Resolves org) (flags : Flags) :
    (group (t.expand org flags) field).filter (isInside org) =
      group (t.expand org flags) field := by
  rw [List.filter_eq_self]
  intro p hp
  obtain ⟨e, he, hr⟩ := exists_entry_of_mem_group hp
  rw [isInside_of_role hr]
  exact isTemplateRole_of_mem_expand ht ho he

/-- The rows that a switch keeps name no template role. -/
theorem isInside_of_mem_group_kept {rows : List Policy} {p : Policy}
    (hp : p ∈ group (rows.flatMap (keptEntries org)) field) : p.isInside org = false := by
  obtain ⟨e, he, hr⟩ := exists_entry_of_mem_group hp
  obtain ⟨q, -, he⟩ := List.mem_flatMap.mp he
  rw [isInside_of_role hr]
  exact (role_of_mem_keptEntries he).2

/-- The rows of template roles in a switched list are those of the template. -/
theorem filter_isInside_group_switch (rows : List Policy) {t : Template}
    (ht : t ∈ Template.custom :: Template.catalog) (ho : t.Resolves org) (flags : Flags) :
    (group (switchEntries rows t org flags) field).filter (isInside org) =
      group (t.expand org flags) field := by
  have hkept : (group (rows.flatMap (keptEntries org)) field).filter (isInside org) = [] := by
    rw [List.filter_eq_nil_iff]
    intro p hp
    rw [isInside_of_mem_group_kept hp]
    exact Bool.false_ne_true
  rw [group_switchEntries rows ht ho, List.filter_append, hkept, List.nil_append,
    filter_isInside_group_expand ht ho]

/-- A list without rows of template roles follows no template. -/
theorem classify_of_outside {rows : List Policy} (h : rows.filter (isInside org) = []) :
    Classification.classify rows org = .custom := by
  have houtside : ∀ p ∈ rows, ∀ role, p.role = some role →
      Role.isTemplateRole role org = false := by
    intro p hp role hr
    rw [← isInside_of_role hr]
    exact Bool.eq_false_iff.mpr (List.filter_eq_nil_iff.mp h p hp)
  have hnone : Classification.classify [] org = .custom := by
    cases org <;> rfl
  rw [← hnone, ← Classification.classify_append houtside [], List.append_nil]

/-- Whatever rows there were, after a switch to a built-in template the list is recognized as that
template with its flags, and a single row names a template role, that of the template. After a
switch to the sentinel the list is custom, and no row names a template role. -/
theorem classify_group_switch (rows : List Policy) {t : Template}
    (ht : t ∈ Template.custom :: Template.catalog) (ho : t.Resolves org) (flags : Flags)
    (field : String) :
    let switched := group (switchEntries rows t org flags) field
    (t ∈ Template.catalog → Classification.classify switched org = .template t.id flags ∧
      ∃ p, switched.filter (isInside org) = [p] ∧ p.role = t.roleFor org) ∧
    (t = Template.custom → Classification.classify switched org = .custom ∧
      switched.filter (isInside org) = []) := by
  intro switched
  have hinside : switched.filter (isInside org) = group (t.expand org flags) field :=
    filter_isInside_group_switch rows ht ho flags
  constructor
  · intro hcatalog
    refine ⟨classify_switch rows hcatalog ho flags, ?_⟩
    obtain ⟨role, hrole, -⟩ := Template.exists_roleFor hcatalog ho
    obtain ⟨p, hp, hr, -⟩ := Template.group_expand hcatalog hrole flags field
    exact ⟨p, hinside.trans hp, hr.trans hrole.symm⟩
  · rintro rfl
    have hnone : switched.filter (isInside org) = [] := hinside
    exact ⟨classify_of_outside hnone, hnone⟩

/-- Rows of all kinds: a role named twice, one that is granted nothing, no role at all, and a row
that another template left. -/
def leftoverRows : List Policy :=
  [readWrite "ROLE_A" seriesField, blank none seriesField, blank (some "ROLE_B") seriesField,
    ⟨some Role.anonymous, false, false, seriesField, [Action.castView, Action.castDiscover]⟩,
    ⟨some "ROLE_A", false, false, seriesField, [Action.castView]⟩]

/-- The rows are switched to the organization template, and away from all templates. -/
theorem classify_group_switch_leftoverRows :
    organizationSeries ∈ Template.custom :: Template.catalog ∧
      organizationSeries.Resolves (some "uzh.ch") ∧
      Classification.classify (group (switchEntries leftoverRows organizationSeries
        (some "uzh.ch") ⟨true, false⟩) seriesField) (some "uzh.ch") =
          .template 3 ⟨true, false⟩ ∧
      (∃ p, (group (switchEntries leftoverRows organizationSeries (some "uzh.ch") ⟨true, false⟩)
        seriesField).filter (isInside (some "uzh.ch")) = [p] ∧
          p.role = organizationSeries.roleFor (some "uzh.ch")) ∧
      Template.custom ∈ Template.custom :: Template.catalog ∧ Template.custom.Resolves none ∧
      Classification.classify (group (switchEntries leftoverRows Template.custom none ⟨true, false⟩)
        seriesField) none = .custom ∧
      (group (switchEntries leftoverRows Template.custom none ⟨true, false⟩) seriesField).filter
        (isInside none) = [] := by
  have hmem : organizationSeries ∈ Template.custom :: Template.catalog := by decide
  have hknown : organizationSeries.Resolves (some "uzh.ch") :=
    organizationSeries_resolves_iff.mpr rfl
  have hcustom : Template.custom ∈ Template.custom :: Template.catalog := List.mem_cons_self
  have hnone : Template.custom.Resolves none := nofun
  obtain ⟨hclass, hrow⟩ := (classify_group_switch leftoverRows hmem hknown ⟨true, false⟩
    seriesField).1 (by decide)
  obtain ⟨hclass', hrows'⟩ := (classify_group_switch leftoverRows hcustom hnone ⟨true, false⟩
    seriesField).2 rfl
  exact ⟨hmem, hknown, hclass, hrow, hcustom, hnone, hclass', hrows'⟩

end SeriesAcl.Policy
