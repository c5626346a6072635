import SeriesAcl.Notice.Note

/-!
# Notice slots

A slot shows at most one note of a kind: raising a note takes down the one raised before.
-/

namespace SeriesAcl

/-- The note that a slot shows, by id and context. -/
structure Slot where
  current : Option (NoteId × String)
  deriving DecidableEq, Repr

namespace Slot

/-- A slot that shows nothing. -/
def empty : Slot := ⟨none⟩

variable {ν : Type} [NoteSink ν]

/-- Whether a note is shown, as far as the slot knows. -/
def isRaised (s : Slot) : Bool :=
  s.current.isSome

/-- Take down the note that is shown. -/
def clear (s : Slot) (notes : ν) : Slot × ν :=
  match s.current with
  | none => (s, notes)
  | some (id, context) => (empty, (NoteSink.remove id context notes).2)

/-- Show a note in the place of the one that is shown. -/
def raise (s : Slot) (n : Note) (notes : ν) : Slot × ν :=
  let (_, notes) := s.clear notes
  let (id, notes) := NoteSink.add n notes
  (⟨some (id, n.context)⟩, notes)

/-- Show a note if none is shown yet. -/
def ensure (s : Slot) (n : Note) (notes : ν) : Slot × ν :=
  if s.isRaised then (s, notes) else s.raise n notes

/-- Show a note when a condition holds, take down the one that is shown when it does not. -/
def toggle (s : Slot) (condition : Bool) (n : Note) (notes : ν) : Slot × ν :=
  if condition then s.raise n notes else s.clear notes

end Slot

end SeriesAcl
