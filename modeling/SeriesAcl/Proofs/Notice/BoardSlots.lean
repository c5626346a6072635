import Mathlib.Data.Fintype.Basic
import SeriesAcl.Proofs.Notice.Standing

/-!
# Slots that share a board

A board keeps sticky notes at any time, so what it shows can be told from what was asked of the
slots and of the board itself: after any run it shows the notes that were posted without a slot and
not taken down, and of every raised slot the note that it raised last.
-/

namespace SeriesAcl

/-- What can happen to slots on a board: besides their own operations, notes are posted without
them, and notes whose ids were handed out so are taken down. -/
inductive SharedEvent (ι : Type) where
  | ask (i : ι) (op : SlotOp)
  | post (n : Note)
  | remove (k : Nat) (context : String)
  | wait (milliseconds : Nat)

/-- The note that an event is about. -/
def SharedEvent.note? {ι : Type} : SharedEvent ι → Option Note
  | .ask _ op => op.note?
  | .post n => some n
  | .remove _ _ => none
  | .wait _ => none

namespace SharedSlots

variable {ι : Type} [DecidableEq ι]

omit [DecidableEq ι] in
/-- The slots at a later time. -/
def advance (x : SharedSlots ι Board) (milliseconds : Nat) : SharedSlots ι Board :=
  { x with notes := x.notes.advance milliseconds }

/-- The slots after an event. -/
def step (x : SharedSlots ι Board) : SharedEvent ι → SharedSlots ι Board
  | .ask i op => x.ask i op
  | .post n => x.post n
  | .remove k context =>
    match x.handed[k]? with
    | none => x
    | some id => x.remove id context
  | .wait milliseconds => x.advance milliseconds

variable [Fintype ι]

omit [DecidableEq ι] in
/-- No note of a slot goes with the time. -/
theorem Sound.advance {x : SharedSlots ι Board} {standing : List (NoteId × Note)}
    (h : x.Sound standing) (milliseconds : Nat) : (x.advance milliseconds).Sound standing where
  keeps := Board.Keeps.advance h.keeps milliseconds
  standing := h.standing
  own := h.own
  apart := h.apart
  handed := h.handed
  direct := h.direct

omit [DecidableEq ι] in
/-- No slot loses its note when a note is taken down whose id was handed out without a slot. -/
theorem Sound.undisturbed_remove {x : SharedSlots ι Board} {standing : List (NoteId × Note)}
    (h : x.Sound standing) (hx : x.Undisturbed) {id : NoteId} (hid : id ∈ x.handed)
    (context : String) : (x.remove id context).Undisturbed := by
  intro i hi
  obtain ⟨own, hcurrent⟩ := Option.isSome_iff_exists.mp hi
  obtain ⟨-, n, hlatest, -⟩ := h.own i own hcurrent
  have hspared : spared id context (own.1, n) = true :=
    spared_of_ne ((h.handed id hid).2 i own hcurrent).symm context
  show (x.dismissed i || (x.latest i).any fun s ↦ !spared id context s) = false
  rw [hx i hi, hlatest, Option.any_some, hspared]
  rfl

private theorem Sound.step {x : SharedSlots ι Board} {standing : List (NoteId × Note)}
    (h : x.Sound standing) (hx : x.Undisturbed) {event : SharedEvent ι}
    (hevent : ∀ n ∈ event.note?, n.duration = none) :
    (∃ standing', (x.step event).Sound standing') ∧ (x.step event).Undisturbed := by
  cases event with
  | ask i op => exact ⟨h.ask i hevent, hx.ask i op⟩
  | post n => exact ⟨⟨_, h.post (hevent n rfl)⟩, hx⟩
  | remove k context =>
    rw [SharedSlots.step]
    rcases hid : x.handed[k]? with _ | id
    · exact ⟨⟨standing, h⟩, hx⟩
    · exact ⟨⟨_, h.remove id context⟩,
        h.undisturbed_remove hx (List.mem_of_getElem? hid) context⟩
  | wait milliseconds => exact ⟨⟨standing, h.advance milliseconds⟩, hx⟩

/-- Slots that share a board with sticky notes know their own notes, and no others are on the board
but those that were posted without a slot and not taken down. -/
theorem sound_run {events : List (SharedEvent ι)}
    (hevents : ∀ event ∈ events, ∀ n ∈ event.note?, n.duration = none) :
    (∃ standing, (events.foldl SharedSlots.step (make Board.empty)).Sound standing) ∧
      (events.foldl SharedSlots.step (make Board.empty)).Undisturbed := by
  refine List.foldlRecOn events SharedSlots.step
    (motive := fun x ↦ (∃ standing, x.Sound standing) ∧ x.Undisturbed) ?_ ?_
  · exact ⟨⟨[], Sound.make Board.Keeps.empty⟩, fun i hi ↦ by cases hi⟩
  · rintro x ⟨⟨standing, h⟩, hx⟩ event hmem
    exact h.step hx (hevents event hmem)

omit [DecidableEq ι] in
/-- The notes that are on a board. -/
theorem Sound.all_eq {x : SharedSlots ι Board} {standing : List (NoteId × Note)}
    (h : x.Sound standing) : (x.notes.all : Multiset Note) =
      (x.direct.map Prod.snd : List Note) +
        ∑ i, (((x.shown i).map Prod.snd : List Note) : Multiset Note) := by
  have hkeeps : x.notes.Keeps standing := h.keeps
  have hnotes := congrArg (Multiset.mapAddMonoidHom Prod.snd) h.standing
  rw [map_add, map_sum] at hnotes
  rw [Multiset.coe_eq_coe.mpr hkeeps.all_perm]
  exact hnotes

omit [DecidableEq ι] in
/-- What stands is found on the board in its context. -/
theorem Sound.sticky_mem_posted {x : SharedSlots ι Board} {standing : List (NoteId × Note)}
    (h : x.Sound standing) {s : NoteId × Note} (hs : s ∈ x.direct ∨ ∃ i, s ∈ x.shown i) :
    Board.sticky s ∈ x.notes.posted s.2.context := by
  have hkeeps : x.notes.Keeps standing := h.keeps
  rw [hkeeps.posted]
  exact List.mem_map_of_mem
    (List.mem_filter.mpr ⟨h.mem_standing.mpr hs, beq_self_eq_true _⟩)

/-- What slots that share a board show. After any operations of theirs, any direct postings and any
removals of directly posted notes, all of sticky notes, a raised slot knows the last note that it
raised by id and context; these notes and the direct ones that were not taken down are all that is
on the board; and no operation of a slot takes down the note of another slot or a direct one,
whatever the contexts, while it leaves its own slot raised or not as it says. -/
theorem standing_run (events : List (SharedEvent ι))
    (hevents : ∀ event ∈ events, ∀ n ∈ event.note?, n.duration = none) :
    let x := events.foldl SharedSlots.step (make Board.empty)
    (∀ i, (x.slots i).current = (x.raisedNote i).map fun s ↦ (s.1, s.2.context)) ∧
      (x.notes.all : Multiset Note) = (x.direct.map Prod.snd : List Note) +
        ∑ i, (((x.raisedNote i).toList.map Prod.snd : List Note) : Multiset Note) ∧
      ∀ i op, (∀ n ∈ op.note?, n.duration = none) →
        ((x.ask i op).slots i).isRaised = op.leavesRaised ∧
        ∀ s, (s ∈ x.direct ∨ ∃ j, j ≠ i ∧ x.raisedNote j = some s) →
          Board.sticky s ∈ (x.ask i op).notes.posted s.2.context := by
  intro x
  obtain ⟨⟨standing, h⟩, hx⟩ := sound_run hevents
  refine ⟨?_, ?_, ?_⟩
  · intro i
    unfold raisedNote Slot.isRaised
    cases hcurrent : (x.slots i).current with
    | none => rfl
    | some own =>
      obtain ⟨-, n, hlatest, hcontext⟩ := h.own i own hcurrent
      rw [Option.isSome_some, if_pos rfl, hlatest, Option.map_some, hcontext]
  · rw [h.all_eq]
    congr 1
    exact Finset.sum_congr rfl fun i _ ↦ by rw [hx.shown_eq i]
  · intro i op hop
    refine ⟨x.isRaised_ask i op, ?_⟩
    intro s hs
    obtain ⟨standing', h'⟩ := h.ask i hop
    apply h'.sticky_mem_posted
    rw [direct_ask]
    refine hs.imp (fun hdirect ↦ hdirect) ?_
    rintro ⟨j, hji, hraised⟩
    refine ⟨j, ?_⟩
    rw [shown_ask_of_ne _ hji, hx.shown_eq j, hraised]
    exact List.mem_singleton_self s

/-- A note of the same key and context is posted without a slot and by two slots, of which one goes
on to another context; the first note is then taken down. -/
def changedContexts : List (SharedEvent (Fin 2)) :=
  [.post (Note.warning Note.missingRules "a"),
    .ask 0 (.raise (Note.warning Note.missingRules "a")),
    .ask 1 (.ensure (Note.warning Note.missingRules "a")),
    .ask 0 (.toggle true (Note.warning Note.missingRules "b")),
    .remove 0 "a",
    .wait 50]

/-- Two notes stand at the end, and the note of the other slot stays when one is cleared. -/
theorem standing_run_changedContexts :
    (∀ event ∈ changedContexts, ∀ n ∈ event.note?, n.duration = none) ∧
      let x := changedContexts.foldl SharedSlots.step (make Board.empty)
      (x.notes.all : Multiset Note) =
          {Note.warning Note.missingRules "a", Note.warning Note.missingRules "b"} ∧
        Board.sticky (⟨2⟩, Note.warning Note.missingRules "a") ∈
          (x.ask 0 .clear).notes.posted "a" := by
  have hevents : ∀ event ∈ changedContexts, ∀ n ∈ event.note?, n.duration = none := by decide
  obtain ⟨-, hall, hframe⟩ := standing_run changedContexts hevents
  refine ⟨hevents, hall.trans (by decide), ?_⟩
  exact (hframe 0 .clear nofun).2 _ (.inr ⟨1, by decide, by decide⟩)

end SharedSlots

end SeriesAcl
