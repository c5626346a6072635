import SeriesAcl.Proofs.Editing.Turns

/-!
# The operations of the permissions tab

All that can be asked of the permissions tab of a series, as one type. An operation that answers
`saved` recorded the rows that the editor then has; any other answer leaves the store as it was,
queries for roles aside (`perform_cases`).
-/

namespace SeriesAcl

/-- What can be asked of the permissions tab. Rows are edited by any function. -/
inductive SeriesOp where
  | load
  | changeEntries (entries : List Entry) (loading : Bool)
  | switchTemplate (id : Nat) (overrideEvents : Bool)
  | applyManaged (id : Int)
  | setFlags (flags : Flags)
  | addRow
  | editRows (edit : List Policy → List Policy)
  | deleteRow (target : Policy)
  | addTag (tag : UserTag)
  | removeTag (tag : UserTag)
  | rowChanged (role : Option String)
  | reloadTags
  | save (reload overrideEvents : Bool)
  | moreRoles (search : Option String)

/-- Whether an operation asks for the lists of the events to be rewritten. -/
def SeriesOp.asksOverride : SeriesOp → Bool
  | .switchTemplate _ overrideEvents => overrideEvents
  | .save _ overrideEvents => overrideEvents
  | _ => false

namespace SeriesEditor

section Perform

variable {σ ν : Type} [AdminNode σ] [NoteSink ν]

/-- Carry out an operation. The answer is the outcome of the save that it ended in, if any. -/
def perform (e : SeriesEditor) (op : SeriesOp) (desk : Desk σ ν) :
    Turn SeriesEditor σ ν (Option SaveOutcome) :=
  match op with
  | .load => (e.load desk).map fun _ ↦ none
  | .changeEntries entries loading => e.changeEntries entries loading desk
  | .switchTemplate id overrideEvents => (e.switchTemplate id overrideEvents desk).map some
  | .applyManaged id => e.applyManaged id desk
  | .setFlags flags => ⟨.ok none, e.setFlags flags, desk⟩
  | .addRow => ⟨.ok none, e.addRow, desk⟩
  | .editRows edit => ⟨.ok none, e.editRows edit, desk⟩
  | .deleteRow target => (e.deleteRow target desk).map some
  | .addTag tag => (e.addTag tag desk).map some
  | .removeTag tag => (e.removeTag tag desk).map some
  | .rowChanged role => e.rowChanged role desk
  | .reloadTags => ⟨.ok none, e.reloadTags, desk⟩
  | .save reload overrideEvents => (e.save reload overrideEvents desk).map some
  | .moreRoles search => (e.moreRoles search desk).map fun _ ↦ none

end Perform

variable {ν : Type}

/-- How an operation ends: it recorded the rows, or it left the store as it was. -/
def Ends (turn : Turn SeriesEditor Store ν (Option SaveOutcome)) (overrideEvents : Bool)
    (s : Store) : Prop :=
  turn.answer = .ok (some .saved) ∧ turn.editor.Recorded overrideEvents s turn.desk.node ∨
    turn.answer ≠ .ok (some .saved) ∧ s.Reads turn.desk.node

/-- A save that is not answered with `saved` is no saved turn. -/
theorem map_some_ne_saved {turn : Turn SeriesEditor Store ν SaveOutcome}
    (h : turn.answer ≠ .ok .saved) : (turn.map some).answer ≠ .ok (some .saved) := by
  intro hs
  apply h
  unfold Turn.map at hs
  cases ha : turn.answer with
  | error error =>
    rw [ha] at hs
    cases hs
  | ok outcome =>
    rw [ha] at hs
    cases hs
    rfl

variable [NoteSink ν]

private theorem ends_save (e : SeriesEditor) (reload overrideEvents : Bool) (desk : Desk Store ν) :
    Ends ((e.save reload overrideEvents desk).map some) overrideEvents desk.node := by
  rcases e.save_cases reload overrideEvents desk with ⟨ha, hr⟩ | ⟨ha, hn, -⟩
  · refine .inl ⟨?_, hr.congr (e.agree_save reload overrideEvents desk)⟩
    rw [Turn.map, ha]
    rfl
  · exact .inr ⟨map_some_ne_saved ha, by rw [Turn.map, hn]; exact .refl _⟩

private theorem ends_changeEntries (e : SeriesEditor) (entries : List Entry) (loading : Bool)
    (desk : Desk Store ν) : Ends (e.changeEntries entries loading desk) false desk.node := by
  cases loading with
  | true => exact .inr ⟨nofun, .refl _⟩
  | false => exact ends_save (e.replaceRows entries) false false desk

/-- Loading saves nothing. -/
theorem answer_load_ne_saved (e : SeriesEditor) (desk : Desk Store ν) :
    (e.perform .load desk).answer ≠ .ok (some .saved) := by
  show (e.load desk).answer.map (fun _ ↦ none) ≠ .ok (some SaveOutcome.saved)
  cases (e.load desk).answer <;> nofun

/-- Every operation records the rows or leaves the store as it was. -/
theorem perform_cases (e : SeriesEditor) (op : SeriesOp) (desk : Desk Store ν) :
    Ends (e.perform op desk) op.asksOverride desk.node := by
  cases op with
  | load => exact .inr ⟨e.answer_load_ne_saved desk, (e.load_cases desk).1⟩
  | changeEntries entries loading => exact ends_changeEntries e entries loading desk
  | switchTemplate id overrideEvents =>
    show Ends ((e.switchTemplate id overrideEvents desk).map some) overrideEvents desk.node
    cases ht : Template.byId? id with
    | none =>
      rw [e.switchTemplate_eq_error ht]
      exact .inr ⟨nofun, .refl _⟩
    | some t =>
      rw [e.switchTemplate_eq ht]
      exact ends_save _ false overrideEvents desk
  | applyManaged id =>
    show Ends (e.applyManaged id desk) false desk.node
    rw [applyManaged_eq]
    cases (Store.managedAcl id desk.node).1 with
    | error error => exact .inr ⟨nofun, .refl _⟩
    | ok managed => exact ends_changeEntries e managed.entries false desk
  | setFlags flags => exact .inr ⟨nofun, .refl _⟩
  | addRow => exact .inr ⟨nofun, .refl _⟩
  | editRows edit => exact .inr ⟨nofun, .refl _⟩
  | deleteRow target => exact ends_save _ true false desk
  | addTag tag => exact ends_save _ false false desk
  | removeTag tag => exact ends_save _ false false desk
  | rowChanged role =>
    show Ends (e.rowChanged role desk) false desk.node
    unfold rowChanged
    split
    · exact ends_save e true false desk
    · exact .inr ⟨nofun, .refl _⟩
  | reloadTags => exact .inr ⟨nofun, .refl _⟩
  | save reload overrideEvents => exact ends_save e reload overrideEvents desk
  | moreRoles search =>
    refine .inr ⟨?_, e.reads_moreRoles search desk⟩
    show (e.moreRoles search desk).answer.map (fun _ ↦ none) ≠ .ok (some SaveOutcome.saved)
    cases (e.moreRoles search desk).answer <;> nofun

end SeriesEditor

end SeriesAcl
