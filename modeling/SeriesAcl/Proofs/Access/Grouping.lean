import Mathlib.Data.List.Induction
import SeriesAcl.Access.Validity

/-!
# Grouping entries into rows

What the rows of a list of entries are, role by role. The row of a role is the fold of the entries
of that role (`find?_group`), so lists that share no role are grouped apart (`group_append`). The
rows that grouping leaves are tidy (`tidied_group`), and tidy rows are what their own entries group
to (`group_toEntries`).
-/

namespace SeriesAcl.Policy

variable {field : String}

/-- The row that the entries of a role add up to. -/
def summary (field role : String) (entries : List Entry) : Policy :=
  (entries.filter fun e ↦ e.role = role).foldl apply (blank (some role) field)

/-- Whether a row grants an action, by a mark or by name. -/
def Allows (p : Policy) (action : String) : Prop :=
  p.read = true ∧ action = Action.read ∨ p.write = true ∧ action = Action.write ∨
    action ∈ p.actions

/-- A row as grouping leaves it: it names a role, and its actions stand once each and leave reading
and writing to the marks. -/
structure Tidy (field : String) (p : Policy) : Prop where
  named : ∃ role, p.role = some role
  field_eq : p.field = field
  nodup : p.actions.Nodup
  plain : ∀ a ∈ p.actions, a ≠ Action.read ∧ a ≠ Action.write

/-- Tidy rows of different roles. -/
structure Tidied (field : String) (rows : List Policy) : Prop where
  tidy : ∀ p ∈ rows, p.Tidy field
  distinct : (rows.map role).Nodup

/-- Reading and writing are two actions. -/
theorem read_ne_write : Action.read ≠ Action.write := by decide

/-! ### One entry -/

/-- What an entry does to a row, mark by mark. -/
theorem apply_eq (p : Policy) (e : Entry) :
    p.apply e =
      { p with
        read := if e.action = Action.read then e.allow else p.read
        write := if e.action = Action.write then e.allow else p.write
        actions := if e.action ≠ Action.read ∧ e.action ≠ Action.write ∧ e.allow = true ∧
            e.action ∉ p.actions then p.actions ++ [e.action] else p.actions } := by
  unfold apply pushAction hasAction
  by_cases hr : e.action = Action.read
  · simp [hr, read_ne_write]
  · by_cases hw : e.action = Action.write
    · simp [hw, read_ne_write.symm]
    · by_cases ha : e.allow = true
      · by_cases hm : e.action ∈ p.actions <;> simp [hr, hw, ha, hm]
      · simp [hr, hw, ha]

/-- An entry leaves the role of the row that takes it in. -/
@[simp]
theorem role_apply (p : Policy) (e : Entry) : (p.apply e).role = p.role := by
  rw [apply_eq]

/-- An entry keeps a row tidy. -/
theorem Tidy.apply {p : Policy} (h : p.Tidy field) (e : Entry) : (p.apply e).Tidy field := by
  rw [apply_eq]
  refine ⟨h.named, h.field_eq, ?_, ?_⟩
  · dsimp only
    split
    · next he =>
      obtain ⟨-, -, -, hm⟩ := he
      rw [List.nodup_append]
      refine ⟨h.nodup, List.pairwise_singleton _ _, ?_⟩
      intro a ha b hb
      rw [List.mem_singleton.mp hb]
      exact fun hab ↦ hm (hab ▸ ha)
    · exact h.nodup
  · intro a ha
    dsimp only at ha
    split at ha
    · next he =>
      rcases List.mem_append.mp ha with ha | ha
      · exact h.plain a ha
      · rw [List.mem_singleton.mp ha]
        exact ⟨he.1, he.2.1⟩
    · exact h.plain a ha

/-- A row without anything granted is tidy. -/
theorem tidy_blank (role : String) : (blank (some role) field).Tidy field :=
  ⟨⟨role, rfl⟩, rfl, List.nodup_nil, fun _ h ↦ absurd h List.not_mem_nil⟩

private theorem mem_actions_apply {p : Policy} {e : Entry} {action : String} :
    action ∈ (p.apply e).actions ↔
      action ∈ p.actions ∨
        e.action = action ∧ e.allow = true ∧ action ≠ Action.read ∧ action ≠ Action.write := by
  rw [apply_eq]
  dsimp only
  split
  · next h =>
    rw [List.mem_append, List.mem_singleton]
    constructor
    · rintro (hm | rfl)
      · exact .inl hm
      · exact .inr ⟨rfl, h.2.2.1, h.1, h.2.1⟩
    · rintro (hm | ⟨rfl, -⟩)
      · exact .inl hm
      · exact .inr rfl
  · next h =>
    constructor
    · exact .inl
    · rintro (hm | ⟨rfl, ha, hr, hw⟩)
      · exact hm
      · exact Classical.byContradiction fun hm ↦ h ⟨hr, hw, ha, hm⟩

/-- A tidy row allows reading by its mark only. -/
theorem Tidy.read_of_allows {p : Policy} (h : p.Tidy field) (ha : p.Allows Action.read) :
    p.read = true := by
  rcases ha with ⟨hr, -⟩ | ⟨-, hw⟩ | hm
  · exact hr
  · exact absurd hw read_ne_write
  · exact absurd rfl (h.plain _ hm).1

/-- A tidy row allows writing by its mark only. -/
theorem Tidy.write_of_allows {p : Policy} (h : p.Tidy field) (ha : p.Allows Action.write) :
    p.write = true := by
  rcases ha with ⟨-, hr⟩ | ⟨hw, -⟩ | hm
  · exact absurd hr.symm read_ne_write
  · exact hw
  · exact absurd rfl (h.plain _ hm).2

/-- What an entry settles: a mark by its own word, another action when it allows it. -/
theorem allows_apply {p : Policy} (h : p.Tidy field) (e : Entry) (action : String) :
    (p.apply e).Allows action ↔
      if action = Action.read ∨ action = Action.write then
        if e.action = action then e.allow = true else p.Allows action
      else p.Allows action ∨ e.action = action ∧ e.allow = true := by
  have hr : Action.read ∉ p.actions := fun hm ↦ (h.plain _ hm).1 rfl
  have hw : Action.write ∉ p.actions := fun hm ↦ (h.plain _ hm).2 rfl
  have hread : (p.apply e).read = if e.action = Action.read then e.allow else p.read := by
    rw [apply_eq]
  have hwrite : (p.apply e).write = if e.action = Action.write then e.allow else p.write := by
    rw [apply_eq]
  unfold Allows
  rw [hread, hwrite, mem_actions_apply]
  by_cases har : action = Action.read
  · subst har
    by_cases he : e.action = Action.read <;> simp [he, hr, read_ne_write]
  · by_cases haw : action = Action.write
    · subst haw
      by_cases he : e.action = Action.write <;> simp [he, hw, read_ne_write.symm]
    · simp [har, haw]

/-- An allowed entry adds its action to a row, and nothing else. -/
theorem allows_apply_allowed {p : Policy} (h : p.Tidy field) (role a action : String) :
    (p.apply (Entry.allowed role a)).Allows action ↔ p.Allows action ∨ action = a := by
  rw [allows_apply h]
  by_cases ha : action = a
  · simp [ha, Entry.allowed]
  · have ha' : a ≠ action := fun he ↦ ha he.symm
    simp [ha, ha', Entry.allowed]

/-! ### Rows of one role -/

/-- Entries leave the role of the row that takes them in. -/
@[simp]
theorem role_foldl_apply (entries : List Entry) (p : Policy) :
    (entries.foldl apply p).role = p.role := by
  induction entries generalizing p with
  | nil => rfl
  | cons e rest ih => rw [List.foldl_cons, ih, role_apply]

/-- A tidy row that takes entries in stays tidy. -/
theorem Tidy.foldl_apply {p : Policy} (h : p.Tidy field) (entries : List Entry) :
    (entries.foldl Policy.apply p).Tidy field := by
  induction entries generalizing p with
  | nil => exact h
  | cons e rest ih => exact ih (h.apply e)

/-- Named actions that a row does not have yet are added in their order. -/
theorem foldl_apply_named (role : String) (actions : List String) (p : Policy)
    (hn : (p.actions ++ actions).Nodup)
    (hp : ∀ a ∈ actions, a ≠ Action.read ∧ a ≠ Action.write) :
    (actions.map (Entry.allowed role)).foldl apply p =
      { p with actions := p.actions ++ actions } := by
  induction actions generalizing p with
  | nil => simp
  | cons a rest ih =>
    obtain ⟨hr, hw⟩ := hp a List.mem_cons_self
    have hm : a ∉ p.actions := by
      intro h
      exact (List.nodup_append.mp hn).2.2 a h a List.mem_cons_self rfl
    have hstep : p.apply (Entry.allowed role a) = { p with actions := p.actions ++ [a] } := by
      rw [apply_eq]
      simp [Entry.allowed, hr, hw, hm]
    rw [List.map_cons, List.foldl_cons, hstep, ih]
    · simp
    · simpa using hn
    · exact fun b hb ↦ hp b (List.mem_cons_of_mem _ hb)

/-- The entries of a tidy row add up to the row. -/
theorem Tidy.foldl_entries {p : Policy} (h : p.Tidy field) {role : String}
    (hr : p.role = some role) : p.entries.foldl Policy.apply (blank (some role) field) = p := by
  have hmarks : ((if p.read then [Entry.allowed role Action.read] else []) ++
      if p.write then [Entry.allowed role Action.write] else []).foldl Policy.apply
        (blank (some role) field) = { p with actions := [] } := by
    obtain ⟨r, read, write, f, actions⟩ := p
    obtain ⟨-, rfl, -, -⟩ := h
    subst hr
    cases read <;> cases write <;>
      simp [blank, apply_eq, Entry.allowed, read_ne_write, read_ne_write.symm]
  simp only [entries, hr]
  rw [List.foldl_append, hmarks, foldl_apply_named _ _ _ (by simpa using h.nodup) h.plain]
  rfl

/-- Entries of different actions are taken at their word. -/
theorem allows_foldl_of_nodup (role : String) {entries : List Entry}
    (h : (entries.map Entry.action).Nodup) (action : String) :
    (entries.foldl apply (blank (some role) field)).Allows action ↔
      ∃ e ∈ entries, e.action = action ∧ e.allow = true := by
  induction entries using List.reverseRecOn with
  | nil => simp [Allows, blank]
  | append_singleton rest e ih =>
    rw [List.map_append, List.nodup_append] at h
    obtain ⟨hrest, -, hne⟩ := h
    rw [List.foldl_append, List.foldl_cons, List.foldl_nil,
      allows_apply ((tidy_blank role).foldl_apply rest), ih hrest]
    have hsplit : (∃ x ∈ rest ++ [e], x.action = action ∧ x.allow = true) ↔
        (∃ x ∈ rest, x.action = action ∧ x.allow = true) ∨ e.action = action ∧ e.allow = true := by
      simp [or_and_right, exists_or]
    rw [hsplit]
    split
    · split
      · next he =>
        have hno : ¬∃ x ∈ rest, x.action = action ∧ x.allow = true := by
          rintro ⟨x, hx, hxa, -⟩
          exact hne x.action (List.mem_map_of_mem hx) e.action (by simp) (hxa.trans he.symm)
        simp [hno, he]
      · next he => simp [he]
    · rfl

/-! ### Rows of several roles -/

/-- The rows after one more entry, looked up by role. -/
theorem find?_absorb (e : Entry) (rows : List Policy) (role : String) :
    find? (absorb field e rows) role =
      if e.role = role then some (((find? rows role).getD (blank (some role) field)).apply e)
      else find? rows role := by
  induction rows with
  | nil =>
    by_cases h : e.role = role
    · simp [absorb, find?, h, blank]
    · simp [absorb, find?, h, blank]
  | cons p rest ih =>
    unfold find? at ih ⊢
    simp only [absorb]
    split
    · next hp =>
      by_cases h : e.role = role
      · simp [hp, h]
      · simp [hp, h]
    · next hp =>
      by_cases h : p.role = some role
      · have he : e.role ≠ role := by
          intro he
          exact hp (he ▸ h)
        simp [h, he]
      · rw [List.find?_cons_of_neg (by simpa using h), List.find?_cons_of_neg (by simpa using h),
          ih]

/-- The roles after one more entry: its role comes last when it is new. -/
theorem roles_absorb (e : Entry) (rows : List Policy) :
    (absorb field e rows).map role =
      if some e.role ∈ rows.map role then rows.map role else rows.map role ++ [some e.role] := by
  induction rows with
  | nil => simp [absorb, blank]
  | cons p rest ih =>
    simp only [absorb]
    by_cases h : p.role = some e.role
    · simp [h]
    · rw [if_neg h, List.map_cons, ih]
      by_cases hm : some e.role ∈ rest.map role
      · simp [hm]
      · simp [hm, Ne.symm h]

private theorem mem_absorb {e : Entry} {rows : List Policy} {p : Policy}
    (h : p ∈ absorb field e rows) :
    p ∈ rows ∨ p = (blank (some e.role) field).apply e ∨ ∃ q ∈ rows, p = q.apply e := by
  induction rows with
  | nil => exact .inr (.inl (List.mem_singleton.mp h))
  | cons q rest ih =>
    simp only [absorb] at h
    split at h
    · rcases List.mem_cons.mp h with rfl | h
      · exact .inr (.inr ⟨q, List.mem_cons_self, rfl⟩)
      · exact .inl (List.mem_cons_of_mem _ h)
    · rcases List.mem_cons.mp h with rfl | h
      · exact .inl List.mem_cons_self
      · rcases ih h with h | h | ⟨r, hr, rfl⟩
        · exact .inl (List.mem_cons_of_mem _ h)
        · exact .inr (.inl h)
        · exact .inr (.inr ⟨r, List.mem_cons_of_mem _ hr, rfl⟩)

/-- One more entry keeps rows tidy. -/
theorem Tidied.absorb {rows : List Policy} (h : Tidied field rows) (e : Entry) :
    Tidied field (Policy.absorb field e rows) := by
  constructor
  · intro p hp
    rcases mem_absorb hp with hp | rfl | ⟨q, hq, rfl⟩
    · exact h.tidy p hp
    · exact (tidy_blank e.role).apply e
    · exact (h.tidy q hq).apply e
  · rw [roles_absorb]
    split
    · exact h.distinct
    · next hm =>
      rw [List.nodup_append]
      refine ⟨h.distinct, List.pairwise_singleton _ _, ?_⟩
      intro a ha b hb hab
      rw [List.mem_singleton.mp hb] at hab
      exact hm (hab ▸ ha)

/-! ### All entries -/

private theorem group_nil : group [] field = [] := rfl

/-- The last entry goes into the rows of those before it. -/
theorem group_concat (entries : List Entry) (e : Entry) :
    group (entries ++ [e]) field = absorb field e (group entries field) := by
  rw [group, List.foldl_append]
  rfl

/-- Grouping leaves tidy rows of different roles. -/
theorem tidied_group (entries : List Entry) : Tidied field (group entries field) := by
  induction entries using List.reverseRecOn with
  | nil => exact ⟨fun _ h ↦ absurd h List.not_mem_nil, List.nodup_nil⟩
  | append_singleton rest e ih =>
    rw [group_concat]
    exact ih.absorb e

/-- The last entry counts for the row of its own role only. -/
theorem summary_concat (entries : List Entry) (e : Entry) (role : String) :
    summary field role (entries ++ [e]) =
      if e.role = role then (summary field role entries).apply e
      else summary field role entries := by
  by_cases h : e.role = role <;> simp [summary, h]

private theorem summary_of_absent {entries : List Entry} {role : String}
    (h : ¬∃ e ∈ entries, e.role = role) :
    summary field role entries = blank (some role) field := by
  have hn : entries.filter (fun e ↦ decide (e.role = role)) = [] := by
    simpa [List.filter_eq_nil_iff] using h
  rw [summary, hn]
  rfl

/-- The first row of a role adds up the entries of the role. -/
theorem find?_group (field : String) (entries : List Entry) (role : String) :
    find? (group entries field) role =
      if ∃ e ∈ entries, e.role = role then some (summary field role entries) else none := by
  induction entries using List.reverseRecOn with
  | nil => simp [group_nil, find?]
  | append_singleton rest e ih =>
    rw [group_concat, find?_absorb, ih, summary_concat]
    by_cases he : e.role = role
    · by_cases hm : ∃ e ∈ rest, e.role = role
      · simp [he, hm]
      · simp [he, hm, summary_of_absent hm]
    · simp [he]

/-- In rows of different roles a row is found by its role. -/
theorem find?_eq_some {rows : List Policy} (hd : (rows.map role).Nodup) {p : Policy}
    (hp : p ∈ rows) {r : String} (hr : p.role = some r) : find? rows r = some p := by
  induction rows with
  | nil => exact absurd hp List.not_mem_nil
  | cons q rest ih =>
    obtain ⟨hq, hd⟩ := List.nodup_cons.mp hd
    unfold find? at ih ⊢
    rcases List.mem_cons.mp hp with rfl | hp
    · simp [hr]
    · have hne : q.role ≠ some r := by
        intro h
        exact hq (List.mem_map.mpr ⟨p, hp, hr.trans h.symm⟩)
      rw [List.find?_cons_of_neg (by simpa using hne)]
      exact ih hd hp

/-- Every row comes from an entry of its role. -/
theorem exists_entry_of_mem_group {entries : List Entry} {p : Policy}
    (h : p ∈ group entries field) : ∃ e ∈ entries, p.role = some e.role := by
  obtain ⟨r, hr⟩ := (tidied_group entries).tidy p h |>.named
  have hf := find?_eq_some (tidied_group entries).distinct h hr
  rw [find?_group] at hf
  split at hf
  · next he =>
    obtain ⟨e, he, rfl⟩ := he
    exact ⟨e, he, hr⟩
  · cases hf

/-- Every entry has a row of its role. -/
theorem exists_row_of_mem (field : String) {entries : List Entry} {e : Entry} (h : e ∈ entries) :
    ∃ p ∈ group entries field, p.role = some e.role := by
  have hf := find?_group field entries e.role
  rw [if_pos ⟨e, h, rfl⟩] at hf
  refine ⟨_, List.mem_of_find?_eq_some hf, ?_⟩
  simpa using List.find?_some hf

/-- Behind rows of other roles an entry acts as if they were not there. -/
theorem absorb_append {e : Entry} {above : List Policy} (h : ∀ p ∈ above, p.role ≠ some e.role)
    (rows : List Policy) : absorb field e (above ++ rows) = above ++ absorb field e rows := by
  induction above with
  | nil => rfl
  | cons p rest ih =>
    rw [List.cons_append, absorb, if_neg (h p List.mem_cons_self),
      ih fun q hq ↦ h q (List.mem_cons_of_mem _ hq), List.cons_append]

/-- Lists that share no role are grouped apart. -/
theorem group_append {xs ys : List Entry} (h : ∀ x ∈ xs, ∀ y ∈ ys, x.role ≠ y.role) :
    group (xs ++ ys) field = group xs field ++ group ys field := by
  induction ys using List.reverseRecOn with
  | nil => simp [group_nil]
  | append_singleton rest e ih =>
    have hrest : ∀ x ∈ xs, ∀ y ∈ rest, x.role ≠ y.role := by
      intro x hx y hy
      exact h x hx y (List.mem_append_left _ hy)
    have habove : ∀ p ∈ group xs field, p.role ≠ some e.role := by
      intro p hp he
      obtain ⟨x, hx, hr⟩ := exists_entry_of_mem_group hp
      exact h x hx e (by simp) (Option.some.inj (hr.symm.trans he))
    rw [← List.append_assoc, group_concat, ih hrest, absorb_append habove, group_concat]

/-- Entries of one role make one row. -/
theorem group_of_role {entries : List Entry} (role : String) (hne : entries ≠ [])
    (h : ∀ e ∈ entries, e.role = role) :
    group entries field = [entries.foldl apply (blank (some role) field)] := by
  cases entries with
  | nil => exact absurd rfl hne
  | cons e rest =>
    -- One row stays one row, whatever it has taken in already.
    have hfold : ∀ (es : List Entry) (p : Policy), (∀ e ∈ es, p.role = some e.role) →
        es.foldl (fun rows e ↦ absorb field e rows) [p] = [es.foldl apply p] := by
      intro es
      induction es with
      | nil => exact fun _ _ ↦ rfl
      | cons x xs ih =>
        intro p hp
        rw [List.foldl_cons, absorb, if_pos (hp x List.mem_cons_self), List.foldl_cons]
        apply ih
        intro y hy
        rw [role_apply]
        exact hp y (List.mem_cons_of_mem _ hy)
    rw [group, List.foldl_cons, absorb, hfold, List.foldl_cons, h e List.mem_cons_self]
    intro y hy
    rw [role_apply, h e List.mem_cons_self, h y (List.mem_cons_of_mem _ hy)]
    rfl

/-- Entries that make one row each make the rows together, when the roles differ. -/
theorem group_flatMap {f : Policy → List Entry} {rows : List Policy}
    (hd : (rows.map role).Nodup) (hf : ∀ p ∈ rows, group (f p) field = [p]) :
    group (rows.flatMap f) field = rows := by
  induction rows with
  | nil => rfl
  | cons p rest ih =>
    obtain ⟨hp, hd⟩ := List.nodup_cons.mp hd
    have hrole : ∀ q ∈ p :: rest, ∀ e ∈ f q, q.role = some e.role := by
      intro q hq e he
      obtain ⟨r, hr, hre⟩ := exists_row_of_mem field he
      rw [hf q hq, List.mem_singleton] at hr
      exact hr ▸ hre
    rw [List.flatMap_cons, group_append, hf p List.mem_cons_self,
      ih hd fun q hq ↦ hf q (List.mem_cons_of_mem _ hq)]
    · rfl
    · intro x hx y hy hxy
      obtain ⟨q, hq, hy⟩ := List.mem_flatMap.mp hy
      have hpx := hrole p List.mem_cons_self x hx
      have hqy := hrole q (List.mem_cons_of_mem _ hq) y hy
      exact hp (List.mem_map.mpr ⟨q, hq, by rw [hqy, hpx, hxy]⟩)

/-! ### Rows and their entries -/

/-- The entries of a row allow what the row allows to its role. -/
theorem mem_entries {p : Policy} {e : Entry} :
    e ∈ p.entries ↔ p.role = some e.role ∧ e.allow = true ∧ p.Allows e.action := by
  obtain ⟨r, a, b⟩ := e
  unfold entries Allows
  cases hr : p.role with
  | none => simp
  | some role =>
    simp only [List.mem_append, List.mem_map, Entry.allowed, Option.some.injEq]
    by_cases h1 : p.read = true <;> by_cases h2 : p.write = true <;> simp [h1, h2] <;> grind

/-- A row has entries exactly when it is worth keeping. -/
theorem isRetainable_iff {p : Policy} : p.isRetainable = true ↔ p.entries ≠ [] := by
  unfold isRetainable entries
  cases p.role with
  | none => simp
  | some role => cases p.read <;> cases p.write <;> simp

/-- A row that names a role is worth keeping exactly when it allows an action. -/
theorem isRetainable_iff_allows {p : Policy} {role : String} (hr : p.role = some role) :
    p.isRetainable = true ↔ ∃ action, p.Allows action := by
  rw [isRetainable_iff]
  constructor
  · intro hne
    obtain ⟨e, he⟩ := List.exists_mem_of_ne_nil _ hne
    exact ⟨e.action, (mem_entries.mp he).2.2⟩
  · rintro ⟨action, ha⟩
    have hm : Entry.allowed role action ∈ p.entries := mem_entries.mpr ⟨hr, rfl, ha⟩
    exact List.ne_nil_of_mem hm

/-- Rows without entries may be left out. -/
theorem flatMap_filter {f : Policy → List Entry} {keep : Policy → Bool} (rows : List Policy)
    (h : ∀ p, keep p = false → f p = []) : (rows.filter keep).flatMap f = rows.flatMap f := by
  induction rows with
  | nil => rfl
  | cons p rest ih =>
    cases hk : keep p with
    | true => rw [List.filter_cons_of_pos hk, List.flatMap_cons, List.flatMap_cons, ih]
    | false =>
      rw [List.filter_cons_of_neg (by simp [hk]), List.flatMap_cons, h p hk, List.nil_append, ih]

/-- The entries of rows, the skipped rows included. -/
theorem toEntries_eq_flatMap (rows : List Policy) : toEntries rows = rows.flatMap entries := by
  apply flatMap_filter
  intro p hp
  by_contra hne
  rw [isRetainable_iff.mpr hne] at hp
  cases hp

/-- The entries of some rows allow what one of the rows allows to its role. -/
theorem mem_toEntries {rows : List Policy} {e : Entry} :
    e ∈ toEntries rows ↔ e.allow = true ∧ ∃ p ∈ rows, p.role = some e.role ∧ p.Allows e.action := by
  rw [toEntries_eq_flatMap, List.mem_flatMap]
  simp only [mem_entries]
  constructor
  · rintro ⟨p, hp, hr, ha, hx⟩
    exact ⟨ha, p, hp, hr, hx⟩
  · rintro ⟨ha, p, hp, hr, hx⟩
    exact ⟨p, hp, hr, ha, hx⟩

/-- What rows grant: a role has the actions that its rows allow. -/
theorem mem_grants_toEntries {rows : List Policy} {role action : String} :
    (role, action) ∈ Entry.grants (toEntries rows) ↔
      ∃ p ∈ rows, p.role = some role ∧ p.Allows action := by
  simp only [Entry.grants, List.mem_map, List.mem_filter, mem_toEntries, Prod.mk.injEq]
  constructor
  · rintro ⟨e, ⟨⟨-, p, hp, hr, hx⟩, -⟩, rfl, rfl⟩
    exact ⟨p, hp, hr, hx⟩
  · rintro ⟨p, hp, hr, hx⟩
    exact ⟨Entry.allowed role action, ⟨⟨rfl, p, hp, hr, hx⟩, rfl⟩, rfl, rfl⟩

/-- What grouped entries grant to a role is what the entries of the role add up to. -/
theorem mem_grants_group {entries : List Entry} {role action : String} :
    (role, action) ∈ Entry.grants (toEntries (group entries field)) ↔
      (summary field role entries).Allows action := by
  rw [mem_grants_toEntries]
  have hf := find?_group field entries role
  by_cases he : ∃ e ∈ entries, e.role = role
  · rw [if_pos he] at hf
    constructor
    · rintro ⟨p, hp, hr, ha⟩
      rw [find?_eq_some (tidied_group entries).distinct hp hr] at hf
      exact Option.some.inj hf ▸ ha
    · intro ha
      exact ⟨_, List.mem_of_find?_eq_some hf, by simpa using List.find?_some hf, ha⟩
  · rw [summary_of_absent he]
    constructor
    · rintro ⟨p, hp, hr, -⟩
      obtain ⟨e, hm, hre⟩ := exists_entry_of_mem_group hp
      exact absurd ⟨e, hm, Option.some.inj (hre.symm.trans hr)⟩ he
    · intro ha
      simp [Allows, blank] at ha

/-- Tidy rows are what their own entries group to, rows without grants aside. -/
theorem group_toEntries {rows : List Policy} (h : Tidied field rows) :
    group (toEntries rows) field = rows.filter isRetainable := by
  apply group_flatMap
  · exact h.distinct.sublist (List.Sublist.map _ List.filter_sublist)
  · intro p hp
    obtain ⟨hp, hk⟩ := List.mem_filter.mp hp
    obtain ⟨r, hr⟩ := (h.tidy p hp).named
    rw [group_of_role r (isRetainable_iff.mp hk), (h.tidy p hp).foldl_entries hr]
    intro e he
    exact Option.some.inj ((mem_entries.mp he).1.symm.trans hr)

/-! ### Rows that may be saved -/

/-- The relaxed check asks for a row, and that every row may be kept. -/
theorem isValid_check_iff {rows : List Policy} :
    (check rows .relaxed).isValid = true ↔ rows ≠ [] ∧ ∀ p ∈ rows, p.isRetainable = true := by
  simp [check, Check.isValid, and_comm]

/-- Rows that pass the check have entries, each of them. -/
theorem toEntries_of_isValid {rows : List Policy}
    (h : (check rows .relaxed).isValid = true) :
    toEntries rows ≠ [] ∧ ∀ p ∈ rows, toEntries [p] ≠ [] := by
  obtain ⟨hne, hall⟩ := isValid_check_iff.mp h
  have hrow : ∀ p ∈ rows, toEntries [p] ≠ [] := by
    intro p hp
    rw [toEntries_eq_flatMap, List.flatMap_singleton]
    exact isRetainable_iff.mp (hall p hp)
  refine ⟨?_, hrow⟩
  obtain ⟨p, rest, rfl⟩ := List.exists_cons_of_ne_nil hne
  rw [toEntries_eq_flatMap, List.flatMap_cons]
  intro hnil
  exact isRetainable_iff.mp (hall p List.mem_cons_self) (List.append_eq_nil_iff.mp hnil).1

/-- Tidy rows that pass the check are what their own entries group to. -/
theorem group_toEntries_of_isValid {rows : List Policy} (ht : Tidied field rows)
    (hv : (check rows .relaxed).isValid = true) : group (toEntries rows) field = rows := by
  rw [group_toEntries ht, List.filter_eq_self]
  exact (isValid_check_iff.mp hv).2

end SeriesAcl.Policy
