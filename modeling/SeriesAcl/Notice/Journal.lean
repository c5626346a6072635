import SeriesAcl.Notice.Note

/-!
# The notice journal

A sink that records every posting and removal in order and never lets a note expire.
-/

namespace SeriesAcl

/-- What happened to a note. -/
inductive NoteEvent where
  | added (id : NoteId) (note : Note)
  | removed (id : NoteId) (context : String)
  deriving DecidableEq, Repr

/-- A record of what was posted and taken down. -/
structure Journal where
  nextId : Nat
  events : List NoteEvent
  deriving DecidableEq, Repr

namespace Journal

/-- A journal without events. -/
def empty : Journal := ⟨0, []⟩

/-- The notes that stand after an event. -/
def apply (standing : List (NoteId × Note)) : NoteEvent → List (NoteId × Note)
  | .added id note => standing ++ [(id, note)]
  | .removed id context => standing.filter fun s ↦ !(s.1 == id && s.2.context == context)

/-- The notes that stand, in the order in which they were posted. -/
def standing (j : Journal) : List (NoteId × Note) :=
  j.events.foldl apply []

/-- Post a note. -/
def add (n : Note) (j : Journal) : NoteId × Journal :=
  (⟨j.nextId⟩, ⟨j.nextId + 1, j.events ++ [.added ⟨j.nextId⟩ n]⟩)

/-- Take down a note of a context. -/
def remove (id : NoteId) (context : String) (j : Journal) : Bool × Journal :=
  (j.standing.any fun s ↦ s.1 == id && s.2.context == context,
    { j with events := j.events ++ [.removed id context] })

/-- Editors post to a journal. -/
instance : NoteSink Journal where
  add := add
  remove := remove

end Journal

end SeriesAcl
