import SeriesAcl.Access.Switch
import SeriesAcl.Proofs.Access.Expansion

/-!
# What a switch of templates leaves

A switch keeps the rows outside the template roles and adds the row of the template
(`group_switchEntries`), which decides the classification (`classify_switch`). Where several rows
name one role, the last of them decides about reading and writing, and the other actions of all of
them stay (`grants_switch_iff`).
-/

namespace SeriesAcl.Policy

variable {field : String} {org : Option String}

/-- Whether a row names a role outside the template roles. -/
def isOutside (org : Option String) (p : Policy) : Bool :=
  p.role.any fun role ↦ !Role.isTemplateRole role org

/-- The last row of a role. -/
def lastOf? (rows : List Policy) (role : String) : Option Policy :=
  (rows.filter fun p ↦ p.role = some role).getLast?

/-- What rows grant to the roles outside the templates is granted by other rows too. -/
def Keeps (org : Option String) (rows rows' : List Policy) : Prop :=
  ∀ role action, Role.isTemplateRole role org = false →
    (role, action) ∈ Entry.grants (toEntries rows) →
    (role, action) ∈ Entry.grants (toEntries rows')

/-- The last row of every role outside the templates grants reading and writing when any row of the
role does. -/
def LastRowsHold (org : Option String) (rows : List Policy) : Prop :=
  ∀ role action, Role.isTemplateRole role org = false →
    action = Action.read ∨ action = Action.write →
    (role, action) ∈ Entry.grants (toEntries rows) →
    ∃ p, lastOf? rows role = some p ∧ p.Allows action

/-! ### The kept entries -/

private theorem isOutside_iff {p : Policy} :
    p.isOutside org = true ↔
      ∃ role, p.role = some role ∧ Role.isTemplateRole role org = false := by
  unfold isOutside
  cases p.role <;> simp

private theorem keptEntries_of_outside {p : Policy} {role : String} (hr : p.role = some role)
    (ho : Role.isTemplateRole role org = false) : p.keptEntries org = p.explicitEntries role := by
  simp only [keptEntries, hr, ho]
  rfl

private theorem keptEntries_of_inside {p : Policy} (h : p.isOutside org = false) :
    p.keptEntries org = [] := by
  unfold keptEntries
  unfold isOutside at h
  cases hr : p.role with
  | none => rfl
  | some role =>
    rw [hr] at h
    simp at h
    simp [h]

private theorem role_of_mem_explicitEntries {p : Policy} {role : String} {e : Entry}
    (h : e ∈ p.explicitEntries role) : e.role = role := by
  simp only [explicitEntries, List.mem_cons, List.mem_map] at h
  rcases h with rfl | rfl | ⟨a, -, rfl⟩ <;> rfl

/-- A kept entry belongs to its row, whose role is outside the templates. -/
theorem role_of_mem_keptEntries {p : Policy} {e : Entry} (h : e ∈ p.keptEntries org) :
    p.role = some e.role ∧ Role.isTemplateRole e.role org = false := by
  cases ho : p.isOutside org with
  | false =>
    rw [keptEntries_of_inside ho] at h
    cases h
  | true =>
    obtain ⟨role, hr, ht⟩ := isOutside_iff.mp ho
    rw [keptEntries_of_outside hr ht] at h
    obtain rfl := role_of_mem_explicitEntries h
    exact ⟨hr, ht⟩

/-- The written-out marks and the actions of a tidy row make the row again. -/
theorem Tidy.group_explicitEntries {p : Policy} (h : p.Tidy field) {role : String}
    (hr : p.role = some role) : group (p.explicitEntries role) field = [p] := by
  rw [group_of_role role (by simp [explicitEntries]) fun e ↦ role_of_mem_explicitEntries]
  have hmarks : ((blank (some role) field).apply ⟨role, Action.read, p.read⟩).apply
      ⟨role, Action.write, p.write⟩ = { p with actions := [] } := by
    obtain ⟨r, read, write, f, actions⟩ := p
    obtain ⟨-, rfl, -, -⟩ := h
    subst hr
    simp [blank, apply_eq, read_ne_write, read_ne_write.symm]
  rw [explicitEntries, List.foldl_cons, List.foldl_cons, hmarks,
    foldl_apply_named _ _ _ (by simpa using h.nodup) h.plain]
  rfl

/-- Of tidy rows a switch keeps those outside the template roles as they are. -/
theorem group_kept {rows : List Policy} (h : Tidied field rows) :
    group (rows.flatMap (keptEntries org)) field = rows.filter (isOutside org) := by
  rw [← flatMap_filter rows fun p ↦ keptEntries_of_inside]
  apply group_flatMap
  · exact h.distinct.sublist (List.filter_sublist.map _)
  · intro p hp
    obtain ⟨hp, ho⟩ := List.mem_filter.mp hp
    obtain ⟨role, hr, ht⟩ := isOutside_iff.mp ho
    rw [keptEntries_of_outside hr ht, (h.tidy p hp).group_explicitEntries hr]

/-! ### The entries of the template -/

/-- A template speaks for template roles. -/
theorem isTemplateRole_of_mem_expand {t : Template} (ht : t ∈ Template.custom :: Template.catalog)
    (ho : t.Resolves org) {flags : Flags} {e : Entry} (he : e ∈ t.expand org flags) :
    Role.isTemplateRole e.role org = true := by
  rcases List.mem_cons.mp ht with rfl | ht
  · cases he
  · obtain ⟨role, hr, hrole⟩ := Template.exists_roleFor ht ho
    rw [Template.expand_eq ht hr] at he
    obtain ⟨a, -, rfl⟩ := List.mem_map.mp he
    exact hrole

/-- The kept entries and those of the template are grouped apart. -/
theorem group_switchEntries (rows : List Policy) {t : Template}
    (ht : t ∈ Template.custom :: Template.catalog) (ho : t.Resolves org) (flags : Flags) :
    group (switchEntries rows t org flags) field =
      group (rows.flatMap (keptEntries org)) field ++ group (t.expand org flags) field := by
  apply group_append
  intro x hx y hy hxy
  obtain ⟨p, -, hx⟩ := List.mem_flatMap.mp hx
  have := (role_of_mem_keptEntries hx).2
  rw [hxy, isTemplateRole_of_mem_expand ht ho hy] at this
  cases this

/-- Rows switched to a template follow the template. -/
theorem classify_switch (rows : List Policy) {t : Template} (ht : t ∈ Template.catalog)
    (ho : t.Resolves org) (flags : Flags) :
    Classification.classify (group (switchEntries rows t org flags) field) org =
      .template t.id flags := by
  rw [group_switchEntries rows (List.mem_cons_of_mem _ ht) ho, Classification.classify_append,
    Classification.classify_expand ht ho]
  intro p hp role hr
  obtain ⟨e, he, hre⟩ := exists_entry_of_mem_group hp
  obtain ⟨q, -, he⟩ := List.mem_flatMap.mp he
  obtain rfl := Option.some.inj (hre.symm.trans hr)
  exact (role_of_mem_keptEntries he).2

/-- Switched tidy rows are those outside the template roles and the row of the template. -/
theorem exists_group_switchEntries {rows : List Policy} (h : Tidied field rows) {t : Template}
    (ht : t ∈ Template.catalog) (ho : t.Resolves org) (flags : Flags) :
    ∃ (p : Policy) (role : String),
      group (switchEntries rows t org flags) field = rows.filter (isOutside org) ++ [p] ∧
      t.roleFor org = some role ∧ p.role = some role ∧
      ∀ action, p.Allows action ↔ (action, true) ∈ t.terms flags := by
  obtain ⟨role, hrole, -⟩ := Template.exists_roleFor ht ho
  obtain ⟨p, hp, hr, -, ha⟩ := Template.group_expand ht hrole flags field
  refine ⟨p, role, ?_, hrole, hr, ha⟩
  rw [group_switchEntries rows (List.mem_cons_of_mem _ ht) ho, group_kept h, hp]

/-- Switched tidy rows may be saved when every row outside the template roles grants something. -/
theorem check_switch_iff {rows : List Policy} (h : Tidied field rows) {t : Template}
    (ht : t ∈ Template.catalog) (ho : t.Resolves org) (flags : Flags) :
    (check (group (switchEntries rows t org flags) field) .relaxed).isValid = true ↔
      ∀ p ∈ rows, p.isOutside org = true → p.isRetainable = true := by
  obtain ⟨q, role, hq, -, hr, ha⟩ := exists_group_switchEntries h ht ho flags
  have hkeep : q.isRetainable = true :=
    (isRetainable_iff_allows hr).mpr ⟨_, (ha _).mpr (Template.castView_mem_terms ht flags)⟩
  rw [hq, isValid_check_iff]
  constructor
  · rintro ⟨-, hall⟩ p hp hout
    exact hall p (List.mem_append_left _ (List.mem_filter.mpr ⟨hp, hout⟩))
  · intro hkept
    refine ⟨List.concat_ne_nil q _, ?_⟩
    intro p hp
    rcases List.mem_append.mp hp with hp | hp
    · obtain ⟨hp, hout⟩ := List.mem_filter.mp hp
      exact hkept p hp hout
    · rw [List.mem_singleton.mp hp]
      exact hkeep

/-- The rows of entries outside the template roles grant something when each of these roles is
granted something. -/
theorem retainable_group_iff (entries : List Entry) :
    (∀ p ∈ group entries field, p.isOutside org = true → p.isRetainable = true) ↔
      ∀ e ∈ entries, Role.isTemplateRole e.role org = false →
        ∃ action, (e.role, action) ∈ Entry.grants (toEntries (group entries field)) := by
  constructor
  · intro h e he hout
    obtain ⟨p, hp, hr⟩ := exists_row_of_mem field he
    obtain ⟨action, ha⟩ := (isRetainable_iff_allows hr).mp
      (h p hp (isOutside_iff.mpr ⟨e.role, hr, hout⟩))
    exact ⟨action, mem_grants_toEntries.mpr ⟨p, hp, hr, ha⟩⟩
  · intro h p hp hout
    obtain ⟨e, he, hr⟩ := exists_entry_of_mem_group hp
    obtain ⟨role, hrole, ht⟩ := isOutside_iff.mp hout
    obtain rfl := Option.some.inj (hr.symm.trans hrole)
    obtain ⟨action, ha⟩ := h e he ht
    obtain ⟨q, hq, hqr, hqa⟩ := mem_grants_toEntries.mp ha
    have hd : ((group entries field).map role).Nodup := (tidied_group entries).distinct
    obtain rfl := Option.some.inj ((find?_eq_some hd hp hr).symm.trans (find?_eq_some hd hq hqr))
    exact (isRetainable_iff_allows hr).mpr ⟨action, hqa⟩

/-! ### Grants -/

/-- What tidy rows switched to a template grant: what the rows outside the template roles grant, and
what the template allows. -/
theorem mem_grants_switch_of_tidied {rows : List Policy} (h : Tidied field rows) {t : Template}
    (ht : t ∈ Template.catalog) (ho : t.Resolves org) (flags : Flags) (role action : String) :
    (role, action) ∈ Entry.grants (toEntries (group (switchEntries rows t org flags) field)) ↔
      Role.isTemplateRole role org = false ∧ (role, action) ∈ Entry.grants (toEntries rows) ∨
        (role, action) ∈ Entry.grants (t.expand org flags) := by
  obtain ⟨q, r, hq, hrole, hr, ha⟩ := exists_group_switchEntries h ht ho flags
  rw [hq, Template.mem_grants_expand ht hrole, mem_grants_toEntries, mem_grants_toEntries]
  constructor
  · rintro ⟨p, hp, hpr, hpa⟩
    rcases List.mem_append.mp hp with hp | hp
    · obtain ⟨hp, hout⟩ := List.mem_filter.mp hp
      obtain ⟨x, hx, ht'⟩ := isOutside_iff.mp hout
      obtain rfl := Option.some.inj (hx.symm.trans hpr)
      exact .inl ⟨ht', p, hp, hpr, hpa⟩
    · rw [List.mem_singleton.mp hp] at hpr hpa
      exact .inr ⟨Option.some.inj (hpr.symm.trans hr), (ha action).mp hpa⟩
  · rintro (⟨hout, p, hp, hpr, hpa⟩ | ⟨rfl, hterm⟩)
    · refine ⟨p, List.mem_append_left _ (List.mem_filter.mpr ⟨hp, ?_⟩), hpr, hpa⟩
      exact isOutside_iff.mpr ⟨role, hpr, hout⟩
    · exact ⟨q, List.mem_append_right _ List.mem_cons_self, hr, (ha action).mpr hterm⟩

/-- The entries of a row with written-out marks settle the marks and add the other actions. -/
theorem allows_foldl_explicit {q : Policy} (hq : q.Tidy field) (p : Policy) (role action : String) :
    ((p.explicitEntries role).foldl apply q).Allows action ↔
      if action = Action.read ∨ action = Action.write then p.Allows action
      else q.Allows action ∨ p.Allows action := by
  -- The named actions come last and touch no mark.
  have hnamed : ∀ (actions : List String) {q : Policy}, q.Tidy field →
      (((actions.map (Entry.allowed role)).foldl apply q).Allows action ↔
        q.Allows action ∨ action ∈ actions) := by
    intro actions
    induction actions with
    | nil => simp
    | cons a rest ih =>
      intro q hq
      rw [List.map_cons, List.foldl_cons, ih (hq.apply _), allows_apply_allowed hq, or_assoc,
        List.mem_cons]
  rw [explicitEntries, List.foldl_cons, List.foldl_cons,
    hnamed _ ((hq.apply _).apply _), allows_apply (hq.apply _), allows_apply hq]
  by_cases hr : action = Action.read
  · subst hr
    simp [Allows, read_ne_write, read_ne_write.symm]
  · by_cases hw : action = Action.write
    · subst hw
      simp [Allows, read_ne_write.symm]
    · have hr' : Action.read ≠ action := fun h ↦ hr h.symm
      have hw' : Action.write ≠ action := fun h ↦ hw h.symm
      rw [if_neg (by simp [hr, hw]), if_neg (by simp [hr, hw]), if_neg (by simp [hr, hw])]
      simp [Allows, hr, hw, hr', hw']

/-- The entries of one role in a switched list are those of its rows. -/
theorem filter_switchEntries (rows : List Policy) {t : Template}
    (ht : t ∈ Template.custom :: Template.catalog) (ho : t.Resolves org) (flags : Flags)
    {role : String} (hr : Role.isTemplateRole role org = false) :
    (switchEntries rows t org flags).filter (fun e ↦ e.role = role) =
      (rows.filter fun p ↦ p.role = some role).flatMap (explicitEntries role) := by
  have hexpand : (t.expand org flags).filter (fun e ↦ e.role = role) = [] := by
    rw [List.filter_eq_nil_iff]
    intro e he h
    have := isTemplateRole_of_mem_expand ht ho he
    rw [of_decide_eq_true h, hr] at this
    cases this
  rw [switchEntries, List.filter_append, hexpand, List.append_nil]
  induction rows with
  | nil => rfl
  | cons p rest ih =>
    rw [List.flatMap_cons, List.filter_append, ih]
    by_cases hp : p.role = some role
    · rw [List.filter_cons_of_pos (by simpa using hp), List.flatMap_cons,
        keptEntries_of_outside hp hr, List.filter_eq_self.mpr]
      intro e he
      exact decide_eq_true (role_of_mem_explicitEntries he)
    · rw [List.filter_cons_of_neg (by simpa using hp), List.filter_eq_nil_iff.mpr, List.nil_append]
      intro e he h
      rw [(role_of_mem_keptEntries he).1, of_decide_eq_true h] at hp
      exact hp rfl

/-- Of several rows of a role the last one settles the marks. -/
theorem allows_foldl_flatMap_explicit (role : String) (rows : List Policy) (action : String) :
    ((rows.flatMap (explicitEntries role)).foldl apply (blank (some role) field)).Allows action ↔
      if action = Action.read ∨ action = Action.write then
        ∃ p, rows.getLast? = some p ∧ p.Allows action
      else ∃ p ∈ rows, p.Allows action := by
  induction rows using List.reverseRecOn with
  | nil => simp [Allows, blank]
  | append_singleton rest p ih =>
    have hrest : ((rest.flatMap (explicitEntries role)).foldl apply
        (blank (some role) field)).Tidy field := (tidy_blank role).foldl_apply _
    rw [List.flatMap_append, List.foldl_append, List.flatMap_singleton,
      allows_foldl_explicit hrest, ih]
    split
    · simp
    · simp [or_and_right, exists_or]

/-- What a switch leaves to a role outside the templates: the actions of all its rows, and reading
and writing as its last row has them. So a switch keeps every grant of these roles exactly when
their last rows hold the marks. -/
theorem grants_switch_iff (rows : List Policy) {t : Template}
    (ht : t ∈ Template.custom :: Template.catalog) (ho : t.Resolves org) (flags : Flags) :
    (∀ role action, Role.isTemplateRole role org = false →
      ((role, action) ∈ Entry.grants (toEntries (group (switchEntries rows t org flags) field)) ↔
        if action = Action.read ∨ action = Action.write then
          ∃ p, lastOf? rows role = some p ∧ p.Allows action
        else (role, action) ∈ Entry.grants (toEntries rows))) ∧
      (Keeps org rows (group (switchEntries rows t org flags) field) ↔ LastRowsHold org rows) := by
  have hgrants : ∀ role action, Role.isTemplateRole role org = false →
      ((role, action) ∈ Entry.grants (toEntries (group (switchEntries rows t org flags) field)) ↔
        if action = Action.read ∨ action = Action.write then
          ∃ p, lastOf? rows role = some p ∧ p.Allows action
        else (role, action) ∈ Entry.grants (toEntries rows)) := by
    intro role action hr
    rw [mem_grants_group, summary, filter_switchEntries rows ht ho flags hr,
      allows_foldl_flatMap_explicit, mem_grants_toEntries]
    simp [lastOf?, and_assoc]
  refine ⟨hgrants, ?_, ?_⟩
  · intro h role action hr hm hg
    have := (hgrants role action hr).mp (h role action hr hg)
    rwa [if_pos hm] at this
  · intro h role action hr hg
    rw [hgrants role action hr]
    split
    · next hm => exact h role action hr hm hg
    · exact hg

/-- The rows of a role that reads and writes, with a second row for the role that names another
action, as a user leaves them who adds a row by hand. -/
def splitRows : List Policy :=
  [readWrite "ROLE_A" seriesField, ⟨some "ROLE_A", false, false, seriesField, [Action.castView]⟩]

/-- The template for private series leaves `ROLE_A` its named action and nothing else. -/
theorem grants_switch_splitRows :
    Entry.grants (toEntries (group (switchEntries splitRows Template.privateSeries none Flags.none)
      seriesField)) =
      [("ROLE_A", Action.castView), (Role.privateMember, Action.castView),
        (Role.privateMember, Action.castDiscover)] := by
  decide

/-- A switch may take the marks of a role outside the templates away. -/
theorem not_keeps_splitRows :
    ¬∀ (rows : List Policy) (t : Template) (org : Option String) (flags : Flags),
      t ∈ Template.custom :: Template.catalog → t.Resolves org →
      Keeps org rows (group (switchEntries rows t org flags) seriesField) := by
  intro h
  have hkeep := h splitRows Template.privateSeries none Flags.none (by decide)
    (Template.privateSeries_resolves none) "ROLE_A" Action.read (by decide) (by decide)
  rw [grants_switch_splitRows] at hkeep
  revert hkeep
  decide

/-- The criterion at these rows. -/
theorem grants_switch_iff_splitRows :
    Template.privateSeries ∈ Template.custom :: Template.catalog ∧
      Template.privateSeries.Resolves none ∧
      (Keeps none splitRows (group (switchEntries splitRows Template.privateSeries none Flags.none)
        seriesField) ↔ LastRowsHold none splitRows) :=
  ⟨by decide, Template.privateSeries_resolves none,
    (grants_switch_iff splitRows (by decide) (Template.privateSeries_resolves none)
      Flags.none).2⟩

end SeriesAcl.Policy
