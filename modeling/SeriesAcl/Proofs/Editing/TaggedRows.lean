import Mathlib.Tactic.Common
import SeriesAcl.Access.Policy
import SeriesAcl.Account.User

/-!
# Tags and rows

A tag stands for a user of the directory whose role has a row, so a list of tags asks for a row of
the role of each (`Carries`). Added rows keep what the rows carry. Of a role, the deletion of a row
takes the last row exactly when the role has one row only and that is the one deleted
(`names_removeLast_iff`).
-/

namespace SeriesAcl.Policy

/-- Some row names a role. -/
def Names (rows : List Policy) (role : String) : Prop :=
  ∃ p ∈ rows, p.role = some role

/-- Every tag has a row of its role. -/
def Carries (rows : List Policy) (tags : List UserTag) : Prop :=
  ∀ tag ∈ tags, Names rows tag.value

/-- A role has a single row, and that row is one with `target`. -/
def IsOnly (target : Policy) (rows : List Policy) (role : String) : Prop :=
  ∃ p, rows.filter (fun q ↦ q.role = some role) = [p] ∧ p.sameRow target = true

/-- Decided by a search through the rows. -/
instance (rows : List Policy) (role : String) : Decidable (Names rows role) :=
  inferInstanceAs (Decidable (∃ p ∈ rows, p.role = some role))

/-- Decided by a search for the row of each tag. -/
instance (rows : List Policy) (tags : List UserTag) : Decidable (Carries rows tags) :=
  inferInstanceAs (Decidable (∀ tag ∈ tags, Names rows tag.value))

variable {rows rows' : List Policy} {tags : List UserTag} {target : Policy} {role : String}

/-! ### Rows that are added -/

/-- A role is named in one list of rows or in the other. -/
theorem names_append : Names (rows ++ rows') role ↔ Names rows role ∨ Names rows' role := by
  simp [Names, or_and_right, exists_or]

/-- One row names its own role. -/
theorem names_singleton {p : Policy} : Names [p] role ↔ p.role = some role := by
  simp [Names]

/-- More rows carry at least as many tags. -/
theorem Carries.append (h : Carries rows tags) (rows' : List Policy) :
    Carries (rows ++ rows') tags :=
  fun tag ht ↦ names_append.mpr (.inl (h tag ht))

/-- A user who is given a row is carried, next to those who were. -/
theorem Carries.concat_tag (h : Carries rows tags) (tag : UserTag) (field : String) :
    Carries (rows ++ [readWrite tag.value field]) (if tag ∈ tags then tags else tags ++ [tag]) := by
  have hkept := h.append [readWrite tag.value field]
  split
  · exact hkept
  · intro t ht
    rcases List.mem_append.mp ht with ht | ht
    · exact hkept t ht
    · rw [List.mem_singleton.mp ht]
      exact names_append.mpr (.inr (names_singleton.mpr rfl))

/-! ### Rows that are deleted -/

/-- Rows that count as the same have one role. -/
theorem role_of_sameRow {p q : Policy} (h : p.sameRow q = true) : p.role = q.role := by
  simp only [sameRow, Bool.and_eq_true, beq_iff_eq] at h
  exact h.1.1

private theorem removeFirst?_cases (target : Policy) (rows : List Policy) :
    removeFirst? target rows = none ∧ (∀ p ∈ rows, p.sameRow target = false) ∨
      ∃ above p below, rows = above ++ p :: below ∧ p.sameRow target = true ∧
        removeFirst? target rows = some (above ++ below) := by
  induction rows with
  | nil => exact .inl ⟨rfl, nofun⟩
  | cons p rest ih =>
    rw [removeFirst?]
    by_cases hp : p.sameRow target = true
    · rw [if_pos hp]
      exact .inr ⟨[], p, rest, rfl, hp, rfl⟩
    · rw [if_neg hp]
      rcases ih with ⟨hnone, hall⟩ | ⟨above, q, below, rfl, hq, hsome⟩
      · rw [hnone]
        exact .inl ⟨rfl, List.forall_mem_cons.mpr ⟨Bool.eq_false_iff.mpr hp, hall⟩⟩
      · rw [hsome]
        exact .inr ⟨p :: above, q, below, rfl, hq, rfl⟩

/-- A deletion takes one row, or none is one with `target`. -/
theorem removeLast_cases (rows : List Policy) (target : Policy) :
    removeLast rows target = rows ∧ (∀ p ∈ rows, p.sameRow target = false) ∨
      ∃ above p below, rows = above ++ p :: below ∧ p.sameRow target = true ∧
        removeLast rows target = above ++ below := by
  unfold removeLast removeLast?
  rcases removeFirst?_cases target rows.reverse with
    ⟨hnone, hall⟩ | ⟨below, p, above, hrows, hp, hsome⟩
  · rw [hnone]
    exact .inl ⟨rfl, fun p hp ↦ hall p (List.mem_reverse.mpr hp)⟩
  · rw [hsome]
    refine .inr ⟨above.reverse, p, below.reverse, ?_, hp, ?_⟩
    · rw [← List.reverse_reverse rows, hrows]
      simp
    · simp

/-- The rows that stay keep their order. -/
theorem removeLast_sublist (rows : List Policy) (target : Policy) :
    (removeLast rows target).Sublist rows := by
  rcases removeLast_cases rows target with ⟨heq, -⟩ | ⟨above, p, below, rfl, -, heq⟩
  · exact heq.symm ▸ List.Sublist.refl rows
  · rw [heq]
    exact (List.sublist_cons_self p below).append_left above

private theorem removeFirst?_filter {keep : Policy → Bool}
    (hkeep : ∀ p, p.sameRow target = true → keep p = true) (rows : List Policy) :
    removeFirst? target (rows.filter keep) = (removeFirst? target rows).map (List.filter keep) := by
  induction rows with
  | nil => rfl
  | cons p rest ih =>
    by_cases hp : p.sameRow target = true
    · simp [removeFirst?, hp, hkeep p hp]
    · by_cases hk : keep p = true <;> simp [removeFirst?, hp, hk, ih, Function.comp_def]

/-- A deletion goes the same way among some of the rows, when they are all that it could take. -/
theorem removeLast_filter {keep : Policy → Bool}
    (hkeep : ∀ p, p.sameRow target = true → keep p = true) (rows : List Policy) :
    removeLast (rows.filter keep) target = (removeLast rows target).filter keep := by
  unfold removeLast removeLast?
  rw [← List.filter_reverse, removeFirst?_filter hkeep, Option.map_map]
  cases removeFirst? target rows.reverse with
  | none => rfl
  | some left => exact List.filter_reverse.symm

/-- A role is named exactly if it has a row. -/
theorem names_iff_filter_ne_nil :
    Names rows role ↔ rows.filter (fun p ↦ p.role = some role) ≠ [] := by
  simp [Names, List.filter_eq_nil_iff]

private theorem IsOnly.exists_mem (h : IsOnly target rows role) :
    ∃ p ∈ rows, p.role = some role ∧ p.sameRow target = true := by
  obtain ⟨p, hfilter, hsame⟩ := h
  have hmem : p ∈ rows.filter fun q ↦ q.role = some role := by
    rw [hfilter]
    exact List.mem_cons_self
  obtain ⟨hp, hrole⟩ := List.mem_filter.mp hmem
  exact ⟨p, hp, of_decide_eq_true hrole, hsame⟩

/-- After a deletion a role is still named unless its only row was deleted. -/
theorem names_removeLast_iff :
    Names (removeLast rows target) role ↔ Names rows role ∧ ¬IsOnly target rows role := by
  rcases removeLast_cases rows target with ⟨heq, hall⟩ | ⟨above, p, below, rfl, hp, heq⟩
  · rw [heq]
    refine (and_iff_left ?_).symm
    intro honly
    obtain ⟨p, hp, -, hsame⟩ := honly.exists_mem
    exact Bool.false_ne_true ((hall p hp).symm.trans hsame)
  · rw [heq]
    by_cases hr : p.role = some role
    · have hnamed : Names (above ++ p :: below) role :=
        ⟨p, List.mem_append_right _ List.mem_cons_self, hr⟩
      rw [and_iff_right hnamed, IsOnly, List.filter_append,
        List.filter_cons_of_pos (by simpa using hr), names_iff_filter_ne_nil, List.filter_append,
        not_iff_not]
      constructor
      · intro hnil
        obtain ⟨habove, hbelow⟩ := List.append_eq_nil_iff.mp hnil
        exact ⟨p, by rw [habove, hbelow, List.nil_append], hp⟩
      · rintro ⟨q, hq, -⟩
        have hlength := congrArg List.length hq
        rw [List.length_append, List.length_cons, List.length_singleton] at hlength
        rw [← List.length_eq_zero_iff, List.length_append]
        omega
    · -- The deleted row is of another role, which `target` shares.
      have hsame : Names (above ++ p :: below) role ↔ Names (above ++ below) role := by
        rw [names_append, names_append, ← List.singleton_append, names_append, names_singleton]
        simp [hr]
      rw [hsame]
      refine (and_iff_left ?_).symm
      intro honly
      obtain ⟨q, -, hq, hsameq⟩ := honly.exists_mem
      rw [role_of_sameRow hp, ← role_of_sameRow hsameq] at hr
      exact hr hq

/-- Tags whose rows were there still have them unless the only row of one was deleted. -/
theorem Carries.removeLast_iff (h : Carries rows tags) :
    Carries (removeLast rows target) tags ↔ ∀ tag ∈ tags, ¬IsOnly target rows tag.value := by
  refine forall₂_congr fun tag ht ↦ ?_
  rw [names_removeLast_iff, and_iff_right (h tag ht)]

end SeriesAcl.Policy

namespace SeriesAcl

/-- A property that holds before a run and survives the safe steps only holds throughout the run
exactly if all its steps are safe. -/
theorem holds_throughout_iff {σ ω : Type} {step : σ → ω → σ} (Holds : σ → Prop)
    {Safe : σ → ω → Prop} (hstep : ∀ s o, Holds s → (Holds (step s o) ↔ Safe s o)) {s : σ}
    (hs : Holds s) (ops : List ω) :
    (∀ before after, ops = before ++ after → Holds (before.foldl step s)) ↔
      ∀ before op after, ops = before ++ op :: after → Safe (before.foldl step s) op := by
  induction ops generalizing s with
  | nil =>
    constructor
    · intro _ before op after h
      exact absurd h.symm (List.append_ne_nil_of_right_ne_nil _ (List.cons_ne_nil _ _))
    · intro _ before after h
      rw [(List.append_eq_nil_iff.mp h.symm).1]
      exact hs
  | cons o rest ih =>
    constructor
    · intro hall before op after h
      have hnext : Holds (step s o) := hall [o] rest rfl
      cases before with
      | nil =>
        obtain ⟨rfl, -⟩ := List.cons.inj h
        exact (hstep s o hs).mp hnext
      | cons b before =>
        obtain ⟨rfl, hrest⟩ := List.cons.inj h
        refine (ih hnext).mp ?_ before op after hrest
        exact fun first last hfirst ↦ hall (o :: first) last (congrArg (o :: ·) hfirst)
    · intro hall before after h
      cases before with
      | nil => exact hs
      | cons b before =>
        obtain ⟨rfl, hrest⟩ := List.cons.inj h
        have hnext : Holds (step s o) := (hstep s o hs).mpr (hall [] o rest rfl)
        refine (ih hnext).mpr ?_ before after hrest
        exact fun first op last hfirst ↦ hall (o :: first) op last (congrArg (o :: ·) hfirst)

end SeriesAcl
