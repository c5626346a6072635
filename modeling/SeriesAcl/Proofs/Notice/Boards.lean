import SeriesAcl.Notice.Board
import SeriesAcl.Notice.Slot
import SeriesAcl.Proofs.Json.Dictionaries

/-!
# What stands on a board

The notes of a context, after each operation of a board (`posted_add`, `posted_remove`). A note
without a duration stands until it is taken down, whatever the time and however often the board is
purged, so for keys that are never posted with a duration the standing notes are the shown ones
(`has_iff`). What a slot does to the standing notes follows (`standing_clear`, `standing_toggle`).
-/

namespace SeriesAcl

namespace Board

variable {b : Board} {context key : String}

/-- The ids of the notes of a context with a key that stand until they are taken down. -/
def standing (b : Board) (context key : String) : List NoteId :=
  ((b.posted context).filter fun p ↦ p.expiresAt.isNone && p.note.key == key).map Posted.id

/-- Notes with a key are posted without a duration. -/
def Untimed (b : Board) (key : String) : Prop :=
  ∀ context, ∀ p ∈ b.posted context, p.note.key = key → p.expiresAt = none

/-! ### The notes of a context -/

/-- A purge keeps the notes of a context that are still shown. -/
theorem getD_purge {contexts : Dict (List Posted)} (h : contexts.Sorted) (now : Nat)
    (context : String) :
    ((purge now contexts).get? context).getD [] =
      ((contexts.get? context).getD []).filter (·.isLive now) := by
  obtain ⟨entries⟩ := contexts
  unfold purge Dict.get?
  dsimp only
  induction entries with
  | nil => rfl
  | cons e rest ih =>
    obtain ⟨k, notes⟩ := e
    obtain ⟨hk, hrest⟩ := List.pairwise_cons.mp h
    have ih := ih hrest
    rw [List.map_cons]
    by_cases hkey : k = context
    · subst hkey
      -- No later entry is for the same context.
      have hlater : Dict.lookup k ((rest.map fun e ↦ (e.1, e.2.filter (·.isLive now))).filter
          fun e ↦ !e.2.isEmpty) = none := by
        apply Dict.lookup_eq_none
        intro e he
        obtain ⟨f, hf, rfl⟩ := List.mem_map.mp (List.mem_filter.mp he).1
        intro heq
        exact String.lt_irrefl k (lt_of_lt_of_eq (hk f hf) heq)
      simp only [Dict.lookup, if_pos, Option.getD_some]
      by_cases hempty : notes.filter (·.isLive now) = []
      · rw [List.filter_cons_of_neg (by simp [hempty]), hlater, hempty]
        rfl
      · rw [List.filter_cons_of_pos (by simpa using hempty), Dict.lookup, if_pos rfl]
        rfl
    · have hskip : ∀ l : List (String × List Posted), Dict.lookup context ((k, notes) :: l) =
          Dict.lookup context l := fun l ↦ if_neg hkey
      rw [hskip, ← ih]
      by_cases hempty : notes.filter (·.isLive now) = []
      · rw [List.filter_cons_of_neg (by simp [hempty])]
      · rw [List.filter_cons_of_pos (by simpa using hempty), Dict.lookup, if_neg hkey]

private theorem sorted_purge {contexts : Dict (List Posted)} (h : contexts.Sorted) (now : Nat) :
    (purge now contexts).Sorted :=
  List.Pairwise.filter _ (List.pairwise_map.mpr h)

/-- A posting drops what is no longer shown, and puts the note last in its context. -/
theorem posted_add (h : b.contexts.Sorted) (n : Note) (context : String) :
    (b.add n).2.posted context =
      (b.posted context).filter (·.isLive b.now) ++
        if n.context = context then [⟨⟨b.nextId⟩, n, n.duration.map (b.now + ·)⟩] else [] := by
  have hkept := getD_purge h b.now context
  unfold posted add
  dsimp only
  rw [Dict.get?_insert]
  by_cases hc : n.context = context
  · subst hc
    rw [if_pos rfl, if_pos rfl, Option.getD_some, hkept]
  · rw [if_neg hc, if_neg hc, List.append_nil, hkept]

/-- A removal takes a note out of its context only. -/
theorem posted_remove (id : NoteId) (removed context : String) :
    (b.remove id removed).2.posted context =
      if removed = context then (b.posted context).filter fun p ↦ p.id ≠ id
      else b.posted context := by
  unfold posted remove
  cases hget : b.contexts.get? removed with
  | none =>
    by_cases hc : removed = context
    · subst hc
      rw [if_pos rfl, hget]
      rfl
    · rw [if_neg hc]
  | some list =>
    dsimp only
    rw [Dict.get?_insert]
    by_cases hc : removed = context
    · subst hc
      rw [if_pos rfl, if_pos rfl, hget]
      rfl
    · rw [if_neg hc, if_neg hc]

/-- A posting keeps the contexts in order. -/
theorem sorted_add (h : b.contexts.Sorted) (n : Note) : (b.add n).2.contexts.Sorted :=
  (sorted_purge h b.now).insert _ _

/-- A removal keeps the contexts in order. -/
theorem sorted_remove (h : b.contexts.Sorted) (id : NoteId) (context : String) :
    (b.remove id context).2.contexts.Sorted := by
  unfold remove
  split
  · exact h
  · exact h.insert _ _

/-! ### Standing notes -/

/-- Only a note without a duration that is posted to the context with the key is one more. -/
theorem standing_add (h : b.contexts.Sorted) (n : Note) (context key : String) :
    (b.add n).2.standing context key =
      b.standing context key ++
        if n.context = context ∧ n.key = key ∧ n.duration = none then [⟨b.nextId⟩] else [] := by
  have hlive : ∀ notes : List Posted,
      (notes.filter (·.isLive b.now)).filter (fun p ↦ p.expiresAt.isNone && p.note.key == key) =
        notes.filter fun p ↦ p.expiresAt.isNone && p.note.key == key := by
    intro notes
    rw [List.filter_filter]
    apply List.filter_congr
    intro p _
    cases hp : p.expiresAt <;> simp [Posted.isLive, hp]
  unfold standing
  rw [posted_add h, List.filter_append, hlive, List.map_append]
  congr 1
  by_cases hc : n.context = context
  · by_cases hk : n.key = key
    · cases n.duration <;> simp [hc, hk]
    · simp [hc, hk]
  · simp [hc]

/-- A removal takes down one id in one context. -/
theorem standing_remove (id : NoteId) (removed context key : String) :
    (b.remove id removed).2.standing context key =
      if removed = context then (b.standing context key).filter fun i ↦ i ≠ id
      else b.standing context key := by
  unfold standing
  rw [posted_remove]
  by_cases hc : removed = context
  · rw [if_pos hc, if_pos hc, List.filter_map, List.filter_filter, List.filter_filter]
    congr 1
    apply List.filter_congr
    intro p _
    exact Bool.and_comm _ _
  · rw [if_neg hc, if_neg hc]

/-! ### Keys without a duration -/

/-- Time does not give a note a duration. -/
theorem Untimed.advance (h : b.Untimed key) (milliseconds : Nat) :
    (b.advance milliseconds).Untimed key :=
  h

/-- A posting keeps notes untimed, if it is of another key or untimed itself. -/
theorem Untimed.add (h : b.Untimed key) (hs : b.contexts.Sorted) {n : Note}
    (hn : n.key = key → n.duration = none) : (b.add n).2.Untimed key := by
  intro context p hp hkey
  rw [posted_add hs] at hp
  rcases List.mem_append.mp hp with hp | hp
  · exact h context p (List.mem_filter.mp hp).1 hkey
  · split at hp
    · rw [List.mem_singleton.mp hp] at hkey ⊢
      dsimp only at hkey ⊢
      rw [hn hkey]
      rfl
    · cases hp

private theorem Untimed.remove (h : b.Untimed key) (id : NoteId) (removed : String) :
    (b.remove id removed).2.Untimed key := by
  intro context p hp hkey
  rw [posted_remove] at hp
  split at hp
  · exact h context p (List.mem_filter.mp hp).1 hkey
  · exact h context p hp hkey

/-- Notes of a key without a duration are shown as long as they stand. -/
theorem length_active (h : b.Untimed key) (context : String) :
    ((b.active context).filter fun n ↦ n.key == key).length = (b.standing context key).length := by
  unfold active standing
  rw [List.filter_map, List.filter_filter, List.length_map, List.length_map]
  congr 1
  apply List.filter_congr
  intro p hp
  by_cases hkey : p.note.key = key
  · simp [Posted.isLive, h context p hp hkey, hkey]
  · have hother : (p.note.key == key) = false := beq_false_of_ne hkey
    simp [hother]

/-- A board has an untimed note of a key exactly if one stands. -/
theorem has_iff (h : b.Untimed key) (context : String) :
    b.has context key = true ↔ b.standing context key ≠ [] := by
  have hlength := length_active h context
  rw [has, List.any_eq_true, ← List.length_pos_iff, ← hlength, List.length_pos_iff_exists_mem]
  simp only [List.mem_filter]

end Board

namespace Slot

variable {b : Board}

/-! ### What a slot does -/

/-- A slot that is cleared takes down its own note. -/
theorem standing_clear (s : Slot) (context key : String) :
    (s.clear b).2.standing context key =
      match s.current with
      | none => b.standing context key
      | some (id, own) =>
        if own = context then (b.standing context key).filter fun i ↦ i ≠ id
        else b.standing context key := by
  unfold clear
  cases hs : s.current with
  | none => rfl
  | some shown => exact Board.standing_remove _ _ _ _

private theorem current_clear (s : Slot) (notes : Board) : (s.clear notes).1.current = none := by
  unfold clear
  split
  · next h => exact h
  · rfl

private theorem sorted_clear (s : Slot) (h : b.contexts.Sorted) :
    (s.clear b).2.contexts.Sorted := by
  unfold clear
  split
  · exact h
  · exact Board.sorted_remove h _ _

private theorem untimed_clear (s : Slot) {key : String} (h : b.Untimed key) :
    (s.clear b).2.Untimed key := by
  unfold clear
  split
  · exact h
  · exact h.remove _ _

/-- A slot takes notes down in the context of its own note only. -/
theorem standing_clear_of_ne {s : Slot} {context : String}
    (h : ∀ id own, s.current = some (id, own) → own ≠ context) (key : String) :
    (s.clear b).2.standing context key = b.standing context key := by
  rw [standing_clear]
  cases hs : s.current with
  | none => rfl
  | some shown => exact if_neg (h shown.1 shown.2 hs)

/-- A slot that is cleared leaves no more than stood. -/
theorem standing_of_clear {s : Slot} {context key : String}
    (h : (s.clear b).2.standing context key ≠ []) : b.standing context key ≠ [] := by
  intro hnil
  apply h
  rw [standing_clear, hnil]
  cases s.current with
  | none => rfl
  | some shown =>
    dsimp only
    split <;> rfl

/-- A slot that is toggled takes down its own note and posts a warning if the condition holds. -/
theorem standing_toggle (s : Slot) (h : b.contexts.Sorted) (condition : Bool)
    (posted own context key : String) :
    (s.toggle condition (Note.warning posted own) b).2.standing context key =
      (s.clear b).2.standing context key ++
        if condition = true ∧ own = context ∧ posted = key then [⟨(s.clear b).2.nextId⟩]
        else [] := by
  unfold toggle
  cases condition with
  | true =>
    have hadd := Board.standing_add (s.sorted_clear h) (Note.warning posted own) context key
    simp only [if_true, true_and]
    rw [show (s.raise (Note.warning posted own) b).2 =
      (Board.add (Note.warning posted own) (s.clear b).2).2 from rfl, hadd]
    simp [Note.warning]
  | false => simp

/-- A slot that was toggled remembers the note that was posted, if one was. -/
theorem current_toggle (s : Slot) (condition : Bool) (n : Note) (notes : Board) :
    (s.toggle condition n notes).1.current =
      if condition then some (⟨(s.clear notes).2.nextId⟩, n.context) else none := by
  unfold toggle
  cases condition with
  | true => rfl
  | false => exact s.current_clear notes

/-- Toggling a slot keeps the contexts in order. -/
theorem sorted_toggle (s : Slot) (h : b.contexts.Sorted) (condition : Bool) (n : Note) :
    (s.toggle condition n b).2.contexts.Sorted := by
  unfold toggle
  split
  · exact Board.sorted_add (s.sorted_clear h) n
  · exact s.sorted_clear h

/-- Toggling a slot with an untimed note keeps notes untimed. -/
theorem untimed_toggle (s : Slot) {key : String} (h : b.Untimed key) (hs : b.contexts.Sorted)
    (condition : Bool) {n : Note} (hn : n.duration = none) :
    (s.toggle condition n b).2.Untimed key := by
  unfold toggle
  split
  · exact (s.untimed_clear h).add (s.sorted_clear hs) fun _ ↦ hn
  · exact s.untimed_clear h

end Slot

end SeriesAcl
