import SeriesAcl.Proofs.Access.Grouping

/-!
# What the rows of a list say

The rows of a list of entries, told without the scan that makes them. There is a row for every role,
in the order in which the roles first occur (`roles_group`). Its marks are as the last entry for
reading and the last entry for writing have them, and its actions are the others that some entry
allows, in the order of their first permission (`summary_eq`). Together these are the rows
(`group_eq`).
-/

namespace SeriesAcl.Policy

variable {field : String}

/-- What the last entry about an action of a role says; where there is none, the action is
denied. -/
def lastWord (entries : List Entry) (role action : String) : Bool :=
  (entries.filter fun e ↦ e.role = role ∧ e.action = action).getLast?.any Entry.allow

/-- The actions besides reading and writing that entries allow a role, entry by entry. -/
def permitted (entries : List Entry) (role : String) : List String :=
  (entries.filter fun e ↦ e.role = role ∧ e.action ≠ Action.read ∧ e.action ≠ Action.write ∧
    e.allow = true).map Entry.action

/-- The actions besides reading and writing that some entry allows a role, each at its first
permission. -/
def namedActions (entries : List Entry) (role : String) : List String :=
  (permitted entries role).eraseDups

/-- The row of a role, as the entries tell it. -/
def rowOf (field : String) (entries : List Entry) (role : String) : Policy where
  role := some role
  read := lastWord entries role Action.read
  write := lastWord entries role Action.write
  field := field
  actions := namedActions entries role

/-- The roles of a list, each at its first occurrence. -/
def firstSeen (entries : List Entry) : List String :=
  (entries.map Entry.role).eraseDups

/-! ### First occurrences -/

/-- One more element is new, or it stands in the list already. -/
theorem eraseDups_concat {α : Type} [BEq α] [LawfulBEq α] (l : List α) (a : α) :
    (l ++ [a]).eraseDups = if a ∈ l then l.eraseDups else l.eraseDups ++ [a] := by
  rw [List.eraseDups_append]
  by_cases h : a ∈ l
  · simp [h, List.removeAll]
  · simp [h, List.removeAll, List.eraseDups_cons]

/-! ### One more entry -/

private theorem lastWord_concat (entries : List Entry) (e : Entry) (role action : String) :
    lastWord (entries ++ [e]) role action =
      if e.role = role ∧ e.action = action then e.allow else lastWord entries role action := by
  by_cases h : e.role = role ∧ e.action = action <;> simp [lastWord, h]

private theorem permitted_concat (entries : List Entry) (e : Entry) (role : String) :
    permitted (entries ++ [e]) role =
      if e.role = role ∧ e.action ≠ Action.read ∧ e.action ≠ Action.write ∧ e.allow = true then
        permitted entries role ++ [e.action]
      else permitted entries role := by
  by_cases h : e.role = role ∧ e.action ≠ Action.read ∧ e.action ≠ Action.write ∧ e.allow = true
  · rw [if_pos h, permitted, List.filter_append, List.map_append,
      List.filter_cons_of_pos (by simpa using h)]
    rfl
  · rw [if_neg h, permitted, List.filter_append, List.map_append,
      List.filter_cons_of_neg (by simpa using h), List.filter_nil, List.map_nil, List.append_nil]
    rfl

private theorem namedActions_concat (entries : List Entry) (e : Entry) (role : String) :
    namedActions (entries ++ [e]) role =
      if e.role = role ∧ e.action ≠ Action.read ∧ e.action ≠ Action.write ∧ e.allow = true ∧
          e.action ∉ namedActions entries role then
        namedActions entries role ++ [e.action]
      else namedActions entries role := by
  unfold namedActions
  rw [permitted_concat]
  split
  · next h =>
    rw [eraseDups_concat]
    simp [h]
  · next h =>
    rw [if_neg]
    rintro ⟨hrole, hread, hwrite, hallow, -⟩
    exact h ⟨hrole, hread, hwrite, hallow⟩

private theorem firstSeen_concat (entries : List Entry) (e : Entry) :
    firstSeen (entries ++ [e]) =
      if e.role ∈ firstSeen entries then firstSeen entries else firstSeen entries ++ [e.role] := by
  unfold firstSeen
  rw [List.map_append, List.map_singleton, eraseDups_concat]
  simp only [List.mem_eraseDups]

/-! ### All entries -/

/-- What the entries of a role add up to is what they tell. -/
theorem summary_eq (entries : List Entry) (role : String) :
    summary field role entries = rowOf field entries role := by
  induction entries using List.reverseRecOn with
  | nil => rfl
  | append_singleton rest e ih =>
    unfold rowOf
    rw [summary_concat, ih, lastWord_concat, lastWord_concat, namedActions_concat, apply_eq]
    by_cases h : e.role = role
    · simp only [h, rowOf, true_and, if_true]
      -- What is left are two ways of deciding one condition.
      congr
    · simp only [h, rowOf, false_and, if_false]

/-- The roles of the rows. -/
theorem roles_group (entries : List Entry) :
    (group entries field).map role = (firstSeen entries).map some := by
  induction entries using List.reverseRecOn with
  | nil => rfl
  | append_singleton rest e ih =>
    rw [group_concat, roles_absorb, ih, firstSeen_concat]
    by_cases h : e.role ∈ firstSeen rest <;> simp [h]

/-- A row is the one of its role. -/
theorem eq_rowOf_of_mem_group {entries : List Entry} {p : Policy} (hp : p ∈ group entries field)
    {role : String} (hr : p.role = some role) : p = rowOf field entries role := by
  have hf := find?_eq_some (tidied_group entries).distinct hp hr
  obtain ⟨e, he, hre⟩ := exists_entry_of_mem_group hp
  rw [find?_group, if_pos ⟨e, he, Option.some.inj (hre.symm.trans hr)⟩, summary_eq] at hf
  exact (Option.some.inj hf).symm

/-- The rows of a list of entries. -/
theorem group_eq (entries : List Entry) (field : String) :
    group entries field = (firstSeen entries).map (rowOf field entries) := by
  have hrow : ∀ p ∈ group entries field, rowOf field entries (p.role.getD "") = p := by
    intro p hp
    obtain ⟨r, hr⟩ := ((tidied_group entries).tidy p hp).named
    rw [hr, Option.getD_some, ← eq_rowOf_of_mem_group hp hr]
  calc group entries field
      = (group entries field).map fun p ↦ rowOf field entries (p.role.getD "") := by
        rw [List.map_congr_left hrow, List.map_id']
    _ = ((group entries field).map role).map fun r ↦ rowOf field entries (r.getD "") := by
        rw [List.map_map]
        rfl
    _ = (firstSeen entries).map (rowOf field entries) := by
        rw [roles_group, List.map_map]
        rfl

end SeriesAcl.Policy
