import SeriesAcl.Dict
import SeriesAcl.Notice.Note

/-!
# The notice board

A sink that keeps notes by context and knows the time. A timed note disappears from reads when its
duration has passed; the notes that have disappeared are dropped at the next posting.
-/

namespace SeriesAcl

/-- A note on the board. -/
structure Posted where
  id : NoteId
  note : Note
  expiresAt : Option Nat
  deriving DecidableEq, Repr

/-- Whether a note is still shown at a time. -/
def Posted.isLive (p : Posted) (now : Nat) : Bool :=
  match p.expiresAt with
  | none => true
  | some expiry => now < expiry

/-- A notice board; the clock counts milliseconds. -/
structure Board where
  now : Nat
  nextId : Nat
  contexts : Dict (List Posted)

namespace Board

/-- A board without notes. -/
def empty : Board := ⟨0, 0, Dict.empty⟩

/-- The board at a later time. -/
def advance (b : Board) (milliseconds : Nat) : Board :=
  { b with now := b.now + milliseconds }

/-- The notes of a context, shown or not, in the order in which they were posted. -/
def posted (b : Board) (context : String) : List Posted :=
  (b.contexts.get? context).getD []

/-- The notes that a context shows. -/
def active (b : Board) (context : String) : List Note :=
  ((b.posted context).filter (·.isLive b.now)).map (·.note)

/-- Whether a context shows a note with a key. -/
def has (b : Board) (context key : String) : Bool :=
  (b.active context).any fun n ↦ n.key == key

/-- Whether one note comes before another in a list of all notes: by context, then by key. -/
def noteLE (a b : Note) : Bool :=
  ((compare a.context b.context).then (compare a.key b.key)).isLE

/-- All notes that are shown, by context and key, else in the order in which they were posted. -/
def all (b : Board) : List Note :=
  let shown := (b.contexts.entries.flatMap (·.2)).filter (·.isLive b.now)
  (shown.map (·.note)).mergeSort noteLE

/-- The contexts without the notes that are no longer shown, and without contexts left empty. -/
def purge (now : Nat) (contexts : Dict (List Posted)) : Dict (List Posted) :=
  ⟨(contexts.entries.map fun e ↦ (e.1, e.2.filter (·.isLive now))).filter fun e ↦ !e.2.isEmpty⟩

/-- Post a note. -/
def add (n : Note) (b : Board) : NoteId × Board :=
  let id : NoteId := ⟨b.nextId⟩
  let kept := purge b.now b.contexts
  let entry : Posted := ⟨id, n, n.duration.map (b.now + ·)⟩
  let list := (kept.get? n.context).getD [] ++ [entry]
  (id, { b with nextId := b.nextId + 1, contexts := kept.insert n.context list })

/-- Take down a note of a context. -/
def remove (id : NoteId) (context : String) (b : Board) : Bool × Board :=
  match b.contexts.get? context with
  | none => (false, b)
  | some list =>
    let rest := list.filter fun p ↦ p.id ≠ id
    (rest.length ≠ list.length, { b with contexts := b.contexts.insert context rest })

/-- Editors post to a board. -/
instance : NoteSink Board where
  add := add
  remove := remove

end Board

end SeriesAcl
