import SeriesAcl.Access.Classification
import SeriesAcl.Proofs.Access.Grouping

/-!
# Templates as rows

The entries of a built-in template make one row, of the role that the template has for the caller
(`group_expand`), and that row is classified as the template with its flags (`classify_expand`).
Rows outside the template roles have no say in a classification (`classify_append`).
-/

namespace SeriesAcl

namespace Role

/-- The members of an organization are no fixed template role. -/
theorem orgMember_ne (org : String) :
    orgMember org ≠ anonymous ∧ orgMember org ≠ federationMember ∧
      orgMember org ≠ privateMember ∧ orgMember org ≠ externalApplication := by
  -- The ten first letters already tell the roles apart.
  have hstart : ∀ role, orgMember org = role →
      ("ROLE_AAI_ORG_".toList ++ org.toList ++ "_MEMBER".toList).take 10 = role.toList.take 10 := by
    intro role h
    rw [← h]
    simp [orgMember]
  refine ⟨?_, ?_, ?_, ?_⟩ <;>
  · intro h
    have := hstart _ h
    simp [anonymous, federationMember, privateMember, externalApplication] at this

private theorem isTemplateRole_iff {role : String} {org : Option String} :
    isTemplateRole role org = true ↔
      role = anonymous ∨ role = federationMember ∨ role = privateMember ∨
        role = externalApplication ∨ ∃ o, org = some o ∧ role = orgMember o := by
  unfold isTemplateRole
  cases org <;> simp [or_assoc]

end Role

/-- The actions of the flags. -/
def Flags.terms (f : Flags) : List (String × Bool) :=
  (if f.download then [(Action.castDownload, true)] else []) ++
    if f.annotate then [(Action.castAnnotate, true)] else []

namespace Template

/-- The actions of a template with its flags. -/
def terms (t : Template) (flags : Flags) : List (String × Bool) :=
  (t.entries.map fun e ↦ (e.action, e.allow)) ++ flags.terms

/-- A template has a role of its own for a caller: that of an organization asks for one. -/
def Resolves (t : Template) (org : Option String) : Prop :=
  t.role = some orgRole → org.isSome = true

/-- The template for private series. -/
def privateSeries : Template :=
  make 4 "private" (some Role.privateMember) listedActions

/-- The private template is one of the catalog. -/
theorem privateSeries_mem_catalog : privateSeries ∈ catalog := by decide

/-- The role of the private template needs no organization. -/
theorem privateSeries_resolves (org : Option String) : privateSeries.Resolves org :=
  fun h ↦ absurd h (by decide)

/-- A template is found by its id. -/
theorem byId?_of_mem {t : Template} (ht : t ∈ custom :: catalog) : byId? t.id = some t := by
  revert t
  decide

/-- What is found by an id is a template of the catalog or the sentinel. -/
theorem mem_of_byId? {id : Nat} {t : Template} (h : byId? id = some t) : t ∈ custom :: catalog := by
  unfold byId? at h
  split at h
  · cases h
    exact List.mem_cons_self
  · exact List.mem_cons_of_mem _ (List.mem_of_find?_eq_some h)

/-- What is found by a key is a template of the catalog or the sentinel. -/
theorem mem_of_byKey? {key : String} {t : Template} (h : byKey? key = some t) :
    t ∈ custom :: catalog := by
  unfold byKey? at h
  split at h
  · cases h
    exact List.mem_cons_self
  · exact List.mem_cons_of_mem _ (List.mem_of_find?_eq_some h)

/-- The organization stands in the place of the placeholder. -/
theorem substituteOrg_orgRole (org : String) :
    substituteOrg orgRole (some org) = Role.orgMember org := by
  have h : Text.splitFirst? orgPlaceholder orgRole = some ("ROLE_AAI_ORG_", "_MEMBER") := by decide
  simp only [substituteOrg, Text.replaceFirst, h]
  rfl

/-- A role without the placeholder is the same in every organization. -/
theorem roleFor_fixed {t : Template} {role : String} (h : t.role = some role)
    (hs : Text.splitFirst? orgPlaceholder role = none) (org : Option String) :
    t.roleFor org = some role := by
  rw [roleFor, h, Option.map_some]
  cases org with
  | none => rfl
  | some o => simp only [substituteOrg, Text.replaceFirst, hs]

/-- The roles of the catalog. -/
theorem role_of_mem_catalog {t : Template} (ht : t ∈ catalog) :
    t.role = some Role.anonymous ∨ t.role = some Role.federationMember ∨ t.role = some orgRole ∨
      t.role = some Role.privateMember ∨ t.role = some Role.externalApplication := by
  revert t
  decide

/-- A built-in template has a role for every caller, if only with its placeholder. -/
theorem exists_roleFor_of_mem {t : Template} (ht : t ∈ catalog) (org : Option String) :
    ∃ role, t.roleFor org = some role := by
  rcases role_of_mem_catalog ht with h | h | h | h | h <;> exact ⟨_, by rw [roleFor, h]; rfl⟩

/-- A built-in template that resolves has a template role. -/
theorem exists_roleFor {t : Template} (ht : t ∈ catalog) {org : Option String}
    (ho : t.Resolves org) :
    ∃ role, t.roleFor org = some role ∧ Role.isTemplateRole role org = true := by
  simp only [Role.isTemplateRole_iff]
  rcases role_of_mem_catalog ht with h | h | h | h | h
  · exact ⟨_, roleFor_fixed h (by decide) org, .inl rfl⟩
  · exact ⟨_, roleFor_fixed h (by decide) org, .inr (.inl rfl)⟩
  · obtain ⟨o, rfl⟩ := Option.isSome_iff_exists.mp (ho h)
    refine ⟨Role.orgMember o, ?_, .inr (.inr (.inr (.inr ⟨o, rfl, rfl⟩)))⟩
    rw [roleFor, h, Option.map_some, substituteOrg_orgRole]
  · exact ⟨_, roleFor_fixed h (by decide) org, .inr (.inr (.inl rfl))⟩
  · exact ⟨_, roleFor_fixed h (by decide) org, .inr (.inr (.inr (.inl rfl)))⟩

/-- The entries of a built-in template are all for its role. -/
theorem entries_of_mem_catalog {t : Template} (ht : t ∈ catalog) :
    ∀ e ∈ t.entries, t.role = some e.role := by
  revert t
  decide

/-- A template spells out its actions for its role. -/
theorem expand_eq {t : Template} (ht : t ∈ catalog) {org : Option String} {role : String}
    (hr : t.roleFor org = some role) (flags : Flags) :
    t.expand org flags = (t.terms flags).map fun a ↦ ⟨role, a.1, a.2⟩ := by
  obtain ⟨r, hr', hs⟩ := Option.map_eq_some_iff.mp hr
  have hown : t.entries.map (fun e ↦ { e with role := substituteOrg e.role org }) =
      (t.entries.map fun e ↦ (e.action, e.allow)).map fun a ↦ ⟨role, a.1, a.2⟩ := by
    rw [List.map_map]
    apply List.map_congr_left
    intro e he
    have : r = e.role := Option.some.inj (hr'.symm.trans (entries_of_mem_catalog ht e he))
    simp [← this, hs]
  have hflags : (flagEntries r flags).map (fun e ↦ { e with role := substituteOrg e.role org }) =
      flags.terms.map fun a ↦ ⟨role, a.1, a.2⟩ := by
    obtain ⟨_ | _, _ | _⟩ := flags <;> simp [flagEntries, Flags.terms, Entry.allowed, hs]
  simp only [expand, hr', terms, List.map_append]
  rw [hown, hflags]

/-- A template names each of its actions once. -/
theorem nodup_terms {t : Template} (ht : t ∈ catalog) (flags : Flags) :
    ((t.terms flags).map Prod.fst).Nodup := by
  obtain ⟨_ | _, _ | _⟩ := flags <;> revert t <;> decide

/-- Every template lets its role watch. -/
theorem castView_mem_terms {t : Template} (ht : t ∈ catalog) (flags : Flags) :
    (Action.castView, true) ∈ t.terms flags := by
  apply List.mem_append_left
  revert t
  decide

/-- The flags alone decide about their actions. -/
theorem castDownload_mem_terms {t : Template} (ht : t ∈ catalog) (flags : Flags) :
    (Action.castDownload, true) ∈ t.terms flags ↔ flags.download = true := by
  obtain ⟨_ | _, _ | _⟩ := flags <;> revert t <;> decide

private theorem castAnnotate_mem_terms {t : Template} (ht : t ∈ catalog) (flags : Flags) :
    (Action.castAnnotate, true) ∈ t.terms flags ↔ flags.annotate = true := by
  obtain ⟨_ | _, _ | _⟩ := flags <;> revert t <;> decide

/-- The entries of a template make one row, which allows what the template allows. -/
theorem group_expand {t : Template} (ht : t ∈ catalog) {org : Option String} {role : String}
    (hr : t.roleFor org = some role) (flags : Flags) (field : String) :
    ∃ p : Policy, Policy.group (t.expand org flags) field = [p] ∧ p.role = some role ∧
      p.Tidy field ∧ ∀ action, p.Allows action ↔ (action, true) ∈ t.terms flags := by
  rw [expand_eq ht hr]
  have hne : (t.terms flags).map (fun a ↦ (⟨role, a.1, a.2⟩ : Entry)) ≠ [] := by
    rw [ne_eq, List.map_eq_nil_iff]
    exact List.ne_nil_of_mem (castView_mem_terms ht flags)
  refine ⟨_, Policy.group_of_role role hne ?_, ?_, ?_, ?_⟩
  · intro e he
    obtain ⟨a, -, rfl⟩ := List.mem_map.mp he
    rfl
  · rw [Policy.role_foldl_apply]
    rfl
  · exact (Policy.tidy_blank role).foldl_apply _
  · intro action
    have hn : (((t.terms flags).map fun a ↦ (⟨role, a.1, a.2⟩ : Entry)).map
        Entry.action).Nodup := by
      rw [List.map_map]
      exact nodup_terms ht flags
    rw [Policy.allows_foldl_of_nodup role hn]
    constructor
    · rintro ⟨e, he, rfl, ha⟩
      obtain ⟨⟨x, b⟩, hx, rfl⟩ := List.mem_map.mp he
      dsimp only at ha ⊢
      exact ha ▸ hx
    · intro h
      exact ⟨⟨role, action, true⟩, List.mem_map.mpr ⟨_, h, rfl⟩, rfl, rfl⟩

/-- What the entries of a template grant. -/
theorem mem_grants_expand {t : Template} (ht : t ∈ catalog) {org : Option String} {role : String}
    (hr : t.roleFor org = some role) (flags : Flags) (r action : String) :
    (r, action) ∈ Entry.grants (t.expand org flags) ↔
      r = role ∧ (action, true) ∈ t.terms flags := by
  rw [expand_eq ht hr]
  simp only [Entry.grants, List.mem_map, List.mem_filter, Prod.mk.injEq]
  constructor
  · rintro ⟨e, ⟨⟨a, ha, rfl⟩, hallow⟩, rfl, rfl⟩
    dsimp only at hallow ⊢
    exact ⟨rfl, hallow ▸ ha⟩
  · rintro ⟨rfl, ha⟩
    exact ⟨⟨r, action, true⟩, ⟨⟨_, ha, rfl⟩, rfl⟩, rfl, rfl⟩

end Template

namespace Classification

/-- Every rule asks for a template role. -/
theorem isTemplateRole_of_mem_rules {org : Option String} {rule : Rule} (h : rule ∈ rules org)
    {role : String} (hr : rule.role = some role) : Role.isTemplateRole role org = true := by
  rw [Role.isTemplateRole_iff]
  simp only [rules, List.mem_cons, List.not_mem_nil, or_false] at h
  rcases h with rfl | rfl | rfl | rfl | rfl | rfl
  · exact .inl (Option.some.inj hr).symm
  · exact .inr (.inl (Option.some.inj hr).symm)
  · obtain ⟨o, ho, rfl⟩ := Option.map_eq_some_iff.mp hr
    exact .inr (.inr (.inr (.inr ⟨o, ho, rfl⟩)))
  · exact .inr (.inr (.inl (Option.some.inj hr).symm))
  · exact .inr (.inr (.inr (.inl (Option.some.inj hr).symm)))
  · exact .inl (Option.some.inj hr).symm

/-- A classification looks at the rows of template roles only. -/
theorem classify_congr {org : Option String} {rows rows' : List Policy}
    (h : ∀ role, Role.isTemplateRole role org = true →
      Policy.find? rows role = Policy.find? rows' role) :
    classify rows org = classify rows' org := by
  have hmatch : ∀ rule ∈ rules org, rule.match? rows = rule.match? rows' := by
    intro rule hrule
    unfold Rule.match?
    cases hr : rule.role with
    | none => rfl
    | some role =>
      simp only [Option.bind_eq_bind, Option.bind_some,
        h role (isTemplateRole_of_mem_rules hrule hr)]
  have hfirst : ∀ list : List Rule, (∀ rule ∈ list, rule.match? rows = rule.match? rows') →
      (list.findSome? fun rule ↦ (rule.match? rows).map fun row ↦ (rule.id, row)) =
        list.findSome? fun rule ↦ (rule.match? rows').map fun row ↦ (rule.id, row) := by
    intro list hl
    induction list with
    | nil => rfl
    | cons rule rest ih =>
      rw [List.findSome?_cons, List.findSome?_cons, hl rule List.mem_cons_self,
        ih fun r hr ↦ hl r (List.mem_cons_of_mem _ hr)]
  unfold classify
  rw [hfirst _ hmatch]

/-- Rows outside the template roles have no say. -/
theorem classify_append {org : Option String} {above : List Policy}
    (h : ∀ p ∈ above, ∀ role, p.role = some role → Role.isTemplateRole role org = false)
    (rows : List Policy) : classify (above ++ rows) org = classify rows org := by
  apply classify_congr
  intro role hrole
  unfold Policy.find?
  rw [List.find?_append, List.find?_eq_none.mpr, Option.none_or]
  intro p hp hpr
  have := h p hp role (by simpa using hpr)
  rw [hrole] at this
  cases this

/-- A rule finds the only row when it is of its role and passes its test. -/
theorem match?_singleton (rule : Rule) {p : Policy} {role : String} (hp : p.role = some role) :
    rule.match? [p] = if rule.role = some role ∧ rule.holds p = true then some p else none := by
  unfold Rule.match? Policy.find?
  cases hr : rule.role with
  | none => simp
  | some r =>
    by_cases h : r = role
    · simp [hp, h]
    · have h' : ¬(role = r) := fun he ↦ h he.symm
      simp [hp, h, h']

private theorem map_orgMember_ne (org : Option String) :
    org.map Role.orgMember ≠ some Role.privateMember ∧
      org.map Role.orgMember ≠ some Role.externalApplication ∧
      org.map Role.orgMember ≠ some Role.anonymous := by
  cases org with
  | none => exact ⟨nofun, nofun, nofun⟩
  | some o =>
    obtain ⟨ha, -, hp, he⟩ := Role.orgMember_ne o
    exact ⟨fun h ↦ hp (Option.some.inj h), fun h ↦ he (Option.some.inj h),
      fun h ↦ ha (Option.some.inj h)⟩

/-- The row of a template follows the template. -/
theorem classify_row {t : Template} (ht : t ∈ Template.catalog) {org : Option String}
    (ho : t.Resolves org) {role : String} (hr : t.roleFor org = some role) {flags : Flags}
    {p : Policy} {field : String} (htidy : p.Tidy field) (hp : p.role = some role)
    (ha : ∀ action, p.Allows action ↔ (action, true) ∈ t.terms flags) :
    classify [p] org = .template t.id flags := by
  have hact : ∀ action, action ≠ Action.read → action ≠ Action.write →
      p.hasAction action = decide ((action, true) ∈ t.terms flags) := by
    intro action hread hwrite
    have := ha action
    simp only [Policy.Allows, hread, hwrite, and_false, false_or] at this
    rw [Policy.hasAction, List.contains_eq_mem]
    exact decide_eq_decide.mpr this
  have hflags : flagsOf p = flags := by
    unfold flagsOf
    rw [hact _ (by decide) (by decide), hact _ (by decide) (by decide)]
    simp [Template.castDownload_mem_terms ht, Template.castAnnotate_mem_terms ht]
  have hdiscover := hact Action.castDiscover (by decide) (by decide)
  have hview := hact Action.castView (by decide) (by decide)
  rw [decide_eq_true (Template.castView_mem_terms ht flags)] at hview
  have hown : ∀ a, a ∈ t.entries.map (fun e ↦ (e.action, e.allow)) → a ∈ t.terms flags :=
    fun a h ↦ List.mem_append_left _ h
  obtain ⟨hnp, hne, hna⟩ := map_orgMember_ne org
  unfold classify rules
  simp only [List.findSome?_cons, match?_singleton _ hp, hview]
  -- One case a template: the rules before its own ask for another role or another action.
  simp only [Template.catalog, List.mem_cons, List.not_mem_nil, or_false] at ht
  rcases ht with rfl | rfl | rfl | rfl | rfl | rfl
  · obtain rfl := Option.some.inj (hr.symm.trans (Template.roleFor_fixed rfl (by decide) org))
    rw [decide_eq_true (hown _ (by decide))] at hdiscover
    simp [hdiscover, hflags, Template.make]
  · obtain rfl := Option.some.inj (hr.symm.trans (Template.roleFor_fixed rfl (by decide) org))
    simp [hflags, Template.make, show Role.anonymous ≠ Role.federationMember by decide]
  · obtain ⟨o, rfl⟩ := Option.isSome_iff_exists.mp (ho rfl)
    have hrole : role = Role.orgMember o := by
      rw [← Template.substituteOrg_orgRole]
      exact Option.some.inj hr.symm
    subst hrole
    obtain ⟨hoa, hof, -, -⟩ := Role.orgMember_ne o
    simp [hflags, Template.make, hoa.symm, hof.symm]
  · obtain rfl := Option.some.inj (hr.symm.trans (Template.roleFor_fixed rfl (by decide) org))
    simp [hflags, Template.make, hnp, show Role.anonymous ≠ Role.privateMember by decide,
      show Role.federationMember ≠ Role.privateMember by decide]
  · obtain rfl := Option.some.inj (hr.symm.trans (Template.roleFor_fixed rfl (by decide) org))
    have hread := htidy.read_of_allows ((ha _).mpr (hown _ (by decide)))
    have hwrite := htidy.write_of_allows ((ha _).mpr (hown _ (by decide)))
    simp [hflags, Template.make, hne, hread, hwrite,
      show Role.anonymous ≠ Role.externalApplication by decide,
      show Role.federationMember ≠ Role.externalApplication by decide,
      show Role.privateMember ≠ Role.externalApplication by decide]
  · obtain rfl := Option.some.inj (hr.symm.trans (Template.roleFor_fixed rfl (by decide) org))
    have hno : (Action.castDiscover, true) ∉ (Template.make 6 "hidden" (some Role.anonymous)
        Template.hiddenActions).terms flags := by
      obtain ⟨_ | _, _ | _⟩ := flags <;> decide
    rw [decide_eq_false hno] at hdiscover
    simp [hdiscover, hflags, Template.make, hna,
      show Role.federationMember ≠ Role.anonymous by decide,
      show Role.privateMember ≠ Role.anonymous by decide,
      show Role.externalApplication ≠ Role.anonymous by decide]

/-- The rows of a template follow the template. -/
theorem classify_expand {t : Template} (ht : t ∈ Template.catalog) {org : Option String}
    (ho : t.Resolves org) (flags : Flags) (field : String) :
    classify (Policy.group (t.expand org flags) field) org = .template t.id flags := by
  obtain ⟨role, hr, -⟩ := Template.exists_roleFor ht ho
  obtain ⟨p, hg, hp, htidy, ha⟩ := Template.group_expand ht hr flags field
  rw [hg]
  exact classify_row ht ho hr htidy hp ha

end Classification

end SeriesAcl
