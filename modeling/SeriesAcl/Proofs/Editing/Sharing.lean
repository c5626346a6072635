import Mathlib.Logic.Function.Basic
import SeriesAcl.Proofs.Editing.Operations

/-!
# Editors that share a store

Any number of editors work on one store, in any order, while operations of the store are made to
fail. The store then holds the first lists with the last recorded ones in their place, and every
recorded list is that of the rows of the editor that saved it (`saves_of_run`).
-/

namespace SeriesAcl

/-- What a save of all rows of an editor, made by an operation, looks like. -/
structure SavedBy (e : SeriesEditor) (op : SeriesOp) (save : String × AccessUpdate) : Prop where
  series : save.1 = e.series
  entries : save.2.entries = Policy.toEntries e.rows
  overrideEvents : save.2.overrideEvents = true ↔ op.asksOverride = true ∨ e.updateMode = .always
  nonempty : save.2.entries ≠ []
  allowed : ∀ entry ∈ save.2.entries, entry.allow = true
  rows : ∀ p ∈ e.rows, Policy.toEntries [p] ≠ []

/-- A save that reached the store is one of all rows. -/
theorem SeriesEditor.Recorded.savedBy {e : SeriesEditor} {op : SeriesOp} {s s' : Store}
    (h : e.Recorded op.asksOverride s s') :
    SavedBy e op (e.series, ⟨Policy.toEntries e.rows, e.updateMode.overrides op.asksOverride⟩) where
  series := rfl
  entries := rfl
  overrideEvents := by simp [UpdateMode.overrides]
  nonempty := (Policy.toEntries_of_isValid h.valid).1
  allowed := fun _ he ↦ (Policy.mem_toEntries.mp he).1
  rows := (Policy.toEntries_of_isValid h.valid).2

/-- A store that is a first one with some saves recorded and applied. -/
structure Store.Follows (first s : Store) (saves : List (String × AccessUpdate)) : Prop where
  record : s.savedAccess = first.savedAccess ++ saves
  blocks : ∀ series, s.access.get? series = first.blockAfter saves series

namespace Store.Follows

variable {first s s' : Store} {saves : List (String × AccessUpdate)}

private theorem refl (s : Store) : s.Follows s [] :=
  ⟨(List.append_nil _).symm, fun _ ↦ rfl⟩

/-- Only the record and the blocks count. -/
theorem congr (h : first.Follows s saves) (hr : s'.savedAccess = s.savedAccess)
    (ha : s'.access = s.access) : first.Follows s' saves :=
  ⟨hr.trans h.record, fun series ↦ by rw [ha, h.blocks]⟩

private theorem concat (h : first.Follows s saves) (series : String) (update : AccessUpdate) :
    first.Follows (s.record series update) (saves ++ [(series, update)]) where
  record := by
    rw [← List.append_assoc, ← h.record]
    rfl
  blocks := get?_record_eq_blockAfter h.blocks series update

end Store.Follows

/-- Several editors at one desk. -/
structure Workplace (ι ν : Type) where
  editors : ι → SeriesEditor
  desk : Desk Store ν

/-- What can happen at a workplace: an editor carries out an operation, or other operations of the
store fail from now on. -/
inductive WorkplaceEvent (ι : Type) where
  | act (i : ι) (op : SeriesOp)
  | fail (operations : List Operation)

namespace Workplace

variable {ι ν : Type} [NoteSink ν]

/-- The turn of an editor. -/
def turn (w : Workplace ι ν) (i : ι) (op : SeriesOp) :
    Turn SeriesEditor Store ν (Option SaveOutcome) :=
  (w.editors i).perform op w.desk

/-- A turn that is answered with `saved` adds one save, any other turn adds none. -/
theorem turn_cases (w : Workplace ι ν) (i : ι) (op : SeriesOp) :
    ((w.turn i op).answer = .ok (some .saved) ∧ op ≠ .load ∧ ∃ series update,
        SavedBy (w.turn i op).editor op (series, update) ∧
        (w.turn i op).desk.node = w.desk.node.record series update) ∨
      ((w.turn i op).answer ≠ .ok (some .saved) ∧ w.desk.node.Reads (w.turn i op).desk.node) := by
  rcases (w.editors i).perform_cases op w.desk with ⟨ha, hr⟩ | hquiet
  · refine .inl ⟨ha, ?_, _, _, hr.savedBy, hr.node⟩
    rintro rfl
    exact (w.editors i).answer_load_ne_saved w.desk ha
  · exact .inr hquiet

variable [DecidableEq ι]

/-- The workplace after an event. -/
def step (w : Workplace ι ν) : WorkplaceEvent ι → Workplace ι ν
  | .act i op => ⟨Function.update w.editors i (w.turn i op).editor, (w.turn i op).desk⟩
  | .fail operations =>
    { w with desk := { w.desk with node := { w.desk.node with failing := operations } } }

/-- The workplace after some events. -/
def run (w : Workplace ι ν) (events : List (WorkplaceEvent ι)) : Workplace ι ν :=
  events.foldl step w

/-- A run that is one step longer. -/
theorem run_concat (w : Workplace ι ν) (events : List (WorkplaceEvent ι))
    (event : WorkplaceEvent ι) : w.run (events ++ [event]) = (w.run events).step event := by
  rw [run, List.foldl_append]
  rfl

/-- A save that an editor made in the course of some events. -/
def MadeIn (w : Workplace ι ν) (events : List (WorkplaceEvent ι)) (save : String × AccessUpdate) :
    Prop :=
  ∃ earlier i op later, events = earlier ++ .act i op :: later ∧
    ((w.run earlier).turn i op).answer = .ok (some .saved) ∧
    SavedBy ((w.run earlier).turn i op).editor op save

private theorem MadeIn.concat {w : Workplace ι ν} {events : List (WorkplaceEvent ι)}
    {save : String × AccessUpdate} (h : w.MadeIn events save) (event : WorkplaceEvent ι) :
    w.MadeIn (events ++ [event]) save := by
  obtain ⟨earlier, i, op, later, rfl, hsaved⟩ := h
  exact ⟨earlier, i, op, later ++ [event], by simp, hsaved⟩

/-- The saves of a run, and what they leave in the store. -/
theorem exists_saves (w : Workplace ι ν) (events : List (WorkplaceEvent ι)) :
    ∃ saves, w.desk.node.Follows (w.run events).desk.node saves ∧
      ∀ save ∈ saves, w.MadeIn events save := by
  -- From the last event backwards: an event extends the saves made up to it.
  induction events using List.reverseRecOn with
  | nil => exact ⟨[], .refl _, fun _ h ↦ absurd h List.not_mem_nil⟩
  | append_singleton events event ih =>
    obtain ⟨saves, hfollows, hmade⟩ := ih
    rw [run_concat]
    cases event with
    | fail operations => exact ⟨saves, hfollows.congr rfl rfl, fun save h ↦ (hmade save h).concat _⟩
    | act i op =>
      rcases (w.run events).turn_cases i op with
        ⟨ha, -, series, update, hsaved, hnode⟩ | ⟨-, hreads⟩
      · refine ⟨saves ++ [(series, update)], ?_, ?_⟩
        · show w.desk.node.Follows ((w.run events).turn i op).desk.node _
          rw [hnode]
          exact hfollows.concat series update
        · intro save h
          rcases List.mem_append.mp h with h | h
          · exact (hmade save h).concat _
          · rw [List.mem_singleton.mp h]
            exact ⟨events, i, op, [], rfl, ha, hsaved⟩
      · refine ⟨saves, ?_, fun save h ↦ (hmade save h).concat _⟩
        exact hfollows.congr hreads.lists_eq.1 hreads.lists_eq.2

/-- Editors that share a store save what they show. After any run every series holds its first block
or the list of its last save, every save is one of all rows of an editor, and the next turn adds one
save when it is answered with `saved` and else changes no list. -/
theorem saves_of_run (w : Workplace ι ν) (events : List (WorkplaceEvent ι)) :
    (∃ saves, (w.run events).desk.node.savedAccess = w.desk.node.savedAccess ++ saves ∧
      (∀ save ∈ saves, w.MadeIn events save) ∧
      ∀ series, match Store.lastSave? saves series with
        | none => (w.run events).desk.node.access.get? series = w.desk.node.access.get? series
        | some update => ∃ block, (w.run events).desk.node.access.get? series = some block ∧
            block.entries = .ok update.entries) ∧
      ∀ i op, ((w.run events).turn i op).answer = .ok (some .saved) ∧ op ≠ .load ∧ (∃ save,
          SavedBy ((w.run events).turn i op).editor op save ∧
          ((w.run events).turn i op).desk.node.savedAccess =
            (w.run events).desk.node.savedAccess ++ [save]) ∨
        ((w.run events).turn i op).answer ≠ .ok (some .saved) ∧
          ((w.run events).turn i op).desk.node.savedAccess = (w.run events).desk.node.savedAccess ∧
          ((w.run events).turn i op).desk.node.access = (w.run events).desk.node.access := by
  refine ⟨?_, ?_⟩
  · obtain ⟨saves, hfollows, hmade⟩ := w.exists_saves events
    refine ⟨saves, hfollows.record, hmade, ?_⟩
    intro series
    split
    · next h => rw [hfollows.blocks, Store.blockAfter, h]
    · next update h =>
      rw [hfollows.blocks]
      exact Store.entries_blockAfter h
  · intro i op
    rcases (w.run events).turn_cases i op with
      ⟨ha, hl, series, update, hsaved, hnode⟩ | ⟨ha, hreads⟩
    · exact .inl ⟨ha, hl, (series, update), hsaved, by rw [hnode]; rfl⟩
    · exact .inr ⟨ha, hreads.lists_eq⟩

end Workplace

end SeriesAcl
