import SeriesAcl.Notice.Journal
import SeriesAcl.Proofs.Notice.Log

/-!
# Sinks that keep their notes

What slots rely on: a sink never gives out an id twice (`FreshSink`), and a note that lasts stands
in it until it is taken down by its id and context (`NoteKeeper`). A board keeps the notes without a
duration, at any time (`Board.Keeps`). A record of what was posted and taken down keeps all notes,
whatever the sink with fresh ids beside which it is kept (`Logbook`).
-/

namespace SeriesAcl

/-- Whether a removal leaves a note that stands. -/
def spared (id : NoteId) (context : String) (s : NoteId × Note) : Bool :=
  !(s.1 == id && s.2.context == context)

/-- A removal leaves the notes with other ids. -/
theorem spared_of_ne {id : NoteId} {s : NoteId × Note} (h : s.1 ≠ id) (context : String) :
    spared id context s = true := by
  simp [spared, h]

/-- A sink that never gives out an id twice. -/
class FreshSink (ν : Type) [NoteSink ν] where
  /-- The ids that were given out. -/
  Issued : ν → NoteId → Prop
  not_issued (n : Note) (notes : ν) : ¬Issued notes (NoteSink.add n notes).1
  issued_new (n : Note) (notes : ν) : Issued (NoteSink.add n notes).2 (NoteSink.add n notes).1
  issued_add (n : Note) {notes : ν} {id : NoteId} :
    Issued notes id → Issued (NoteSink.add n notes).2 id
  issued_remove (removed : NoteId) (context : String) {notes : ν} {id : NoteId} :
    Issued notes id → Issued (NoteSink.remove removed context notes).2 id

/-- A sink with fresh ids that keeps the notes that last until they are taken down. -/
class NoteKeeper (ν : Type) [NoteSink ν] extends FreshSink ν where
  /-- Whether a note stands until it is taken down. -/
  Lasts : Note → Prop
  /-- Exactly these notes stand, all of which last, in the order of their posting. -/
  Keeps : ν → List (NoteId × Note) → Prop
  keeps_add {notes : ν} {standing : List (NoteId × Note)} {n : Note} :
    Keeps notes standing → Lasts n →
      Keeps (NoteSink.add n notes).2 (standing ++ [((NoteSink.add n notes).1, n)])
  keeps_remove {notes : ν} {standing : List (NoteId × Note)} (id : NoteId) (context : String) :
    Keeps notes standing →
      Keeps (NoteSink.remove id context notes).2 (standing.filter (spared id context))

/-! ### Boards -/

namespace Board

variable {b : Board} {standing : List (NoteId × Note)}

/-- A note without a duration, as a board keeps it. -/
def sticky (s : NoteId × Note) : Posted :=
  ⟨s.1, s.2, none⟩

/-- A note without a duration is shown at any time. -/
theorem filter_isLive_sticky (notes : List (NoteId × Note)) (now : Nat) :
    (notes.map sticky).filter (·.isLive now) = notes.map sticky := by
  rw [List.filter_eq_self]
  intro p hp
  obtain ⟨s, -, rfl⟩ := List.mem_map.mp hp
  rfl

/-- Exactly these notes are on the board, none of which expires. -/
structure Keeps (b : Board) (standing : List (NoteId × Note)) : Prop where
  sorted : b.contexts.Sorted
  posted : ∀ context,
    b.posted context = (standing.filter fun s ↦ s.2.context == context).map sticky

namespace Keeps

/-- An empty board keeps nothing. -/
theorem empty : Board.empty.Keeps [] :=
  ⟨List.Pairwise.nil, fun _ ↦ rfl⟩

/-- A board goes on keeping its notes as time passes. -/
theorem advance (h : b.Keeps standing) (milliseconds : Nat) :
    (b.advance milliseconds).Keeps standing :=
  ⟨h.sorted, h.posted⟩

private theorem add (h : b.Keeps standing) {n : Note} (hn : n.duration = none) :
    (b.add n).2.Keeps (standing ++ [(⟨b.nextId⟩, n)]) where
  sorted := sorted_add h.sorted n
  posted := by
    intro context
    rw [posted_add h.sorted, h.posted, filter_isLive_sticky, List.filter_append, List.map_append,
      hn]
    congr 1
    by_cases hc : n.context = context <;> simp [sticky, hc]

private theorem remove (h : b.Keeps standing) (id : NoteId) (removed : String) :
    (b.remove id removed).2.Keeps (standing.filter (spared id removed)) where
  sorted := sorted_remove h.sorted id removed
  posted := by
    intro context
    rw [posted_remove, h.posted, List.filter_comm]
    by_cases hc : removed = context
    · rw [if_pos hc, List.filter_map]
      congr 1
      apply List.filter_congr
      intro s hs
      have hcontext := (List.mem_filter.mp hs).2
      by_cases hid : s.1 = id <;> simp [sticky, spared, hc, beq_iff_eq.mp hcontext, hid]
    · rw [if_neg hc]
      congr 1
      symm
      rw [List.filter_eq_self]
      intro s hs
      have hcontext := (List.mem_filter.mp hs).2
      simp [spared, beq_iff_eq.mp hcontext, Ne.symm hc]

/-- The notes of a context that are shown. -/
theorem active_eq (h : b.Keeps standing) (context : String) :
    b.active context = (standing.filter fun s ↦ s.2.context == context).map Prod.snd := by
  rw [active, h.posted, filter_isLive_sticky, List.map_map]
  rfl

private theorem placed (h : b.Keeps standing) : b.Placed := by
  intro context p hp
  rw [h.posted] at hp
  obtain ⟨s, hs, rfl⟩ := List.mem_map.mp hp
  exact beq_iff_eq.mp (List.mem_filter.mp hs).2

/-- All notes that are shown. -/
theorem all_perm (h : b.Keeps standing) : b.all.Perm (standing.map Prod.snd) := by
  have hkept : (keptIn b.contexts.entries).Perm (standing.map sticky) := by
    rw [List.perm_iff_count]
    intro p
    -- Both lists are counted context by context.
    have hcount : ∀ notes : List Posted, notes.count p =
        (notes.filter fun q ↦ q.note.context == p.note.context).count p := by
      intro notes
      rw [List.count_filter]
      exact beq_self_eq_true _
    rw [hcount, filter_keptIn h.sorted h.placed (.refl _), h.posted, hcount (standing.map sticky),
      List.filter_map]
    rfl
  have hshown : ((keptIn b.contexts.entries).filter (·.isLive b.now)).Perm
      (standing.map sticky) := by
    have hfilter := hkept.filter (·.isLive b.now)
    rwa [filter_isLive_sticky] at hfilter
  have hnotes := (List.mergeSort_perm _ noteLE).trans (hshown.map (·.note))
  rw [List.map_map] at hnotes
  exact hnotes

end Keeps

/-- A board keeps the notes that last; its ids are counted up. -/
instance : NoteKeeper Board where
  Issued b id := id.number < b.nextId
  not_issued _ b := Nat.lt_irrefl b.nextId
  issued_new _ b := Nat.lt_succ_self b.nextId
  issued_add _ := Nat.lt_succ_of_lt
  issued_remove removed context {_ _} h := lt_of_lt_of_eq h (nextId_remove removed context).symm
  Lasts n := n.duration = none
  Keeps := Keeps
  keeps_add h hn := h.add hn
  keeps_remove id context h := h.remove id context

end Board

/-! ### Logbooks -/

/-- A sink with a record of what was posted and taken down. -/
structure Logbook (ν : Type) where
  sink : ν
  events : List NoteEvent

namespace Logbook

variable {ν : Type}

/-- A sink of which nothing is recorded yet. -/
def fresh (sink : ν) : Logbook ν := ⟨sink, []⟩

/-- The notes that stand: those that were posted and not taken down. -/
def standing (book : Logbook ν) : List (NoteId × Note) :=
  book.events.foldl Journal.apply []

/-- Every removal took down a note that stood. -/
def Faithful (book : Logbook ν) : Prop :=
  ∀ before id context after, book.events = before ++ .removed id context :: after →
    ∃ n, (id, n) ∈ before.foldl Journal.apply [] ∧ n.context = context

/-- A new logbook is faithful. -/
theorem Faithful.fresh (sink : ν) : (fresh sink).Faithful :=
  fun before _ _ _ hsplit ↦
    absurd hsplit.symm (List.append_ne_nil_of_right_ne_nil before (List.cons_ne_nil _ _))

/-- A record stays faithful with another event that is no removal of a note that does not stand. -/
theorem Faithful.record {book : Logbook ν} (h : book.Faithful) {event : NoteEvent}
    (hevent : ∀ id context, event = .removed id context →
      ∃ n, (id, n) ∈ book.standing ∧ n.context = context) (sink : ν) :
    Faithful ⟨sink, book.events ++ [event]⟩ := by
  intro before id context after hsplit
  rcases List.eq_nil_or_concat' after with rfl | ⟨middle, last, rfl⟩
  · obtain ⟨hbefore, hlast⟩ := List.append_inj' hsplit rfl
    rw [← hbefore]
    exact hevent id context (List.singleton_inj.mp hlast)
  · rw [← List.cons_append, ← List.append_assoc] at hsplit
    exact h before id context middle (List.append_inj' hsplit rfl).1

variable [NoteSink ν]

/-- Post a note. -/
def add (n : Note) (book : Logbook ν) : NoteId × Logbook ν :=
  let (id, sink) := NoteSink.add n book.sink
  (id, ⟨sink, book.events ++ [.added id n]⟩)

/-- Take down a note of a context. -/
def remove (id : NoteId) (context : String) (book : Logbook ν) : Bool × Logbook ν :=
  let (stood, sink) := NoteSink.remove id context book.sink
  (stood, ⟨sink, book.events ++ [.removed id context]⟩)

/-- A logbook takes postings and removals on to its sink. -/
instance : NoteSink (Logbook ν) where
  add := add
  remove := remove

private theorem standing_add (n : Note) (book : Logbook ν) :
    (book.add n).2.standing = book.standing ++ [((book.add n).1, n)] :=
  List.foldl_append

private theorem standing_remove (id : NoteId) (context : String) (book : Logbook ν) :
    (book.remove id context).2.standing = book.standing.filter (spared id context) :=
  List.foldl_append

/-- A logbook stays faithful when a note is posted. -/
theorem Faithful.add {book : Logbook ν} (h : book.Faithful) (n : Note) :
    (book.add n).2.Faithful := by
  apply h.record
  intro id context hevent
  cases hevent

/-- A logbook stays faithful when a standing note is taken down with its own context. -/
theorem Faithful.remove {book : Logbook ν} (h : book.Faithful) {id : NoteId} {n : Note}
    (hn : (id, n) ∈ book.standing) : (book.remove id n.context).2.Faithful := by
  apply h.record
  intro _ _ hevent
  cases hevent
  exact ⟨n, hn, rfl⟩

/-- A logbook keeps every note that was not taken down. -/
instance [FreshSink ν] : NoteKeeper (Logbook ν) where
  Issued book := FreshSink.Issued book.sink
  not_issued n book := FreshSink.not_issued n book.sink
  issued_new n book := FreshSink.issued_new n book.sink
  issued_add n := FreshSink.issued_add n
  issued_remove removed context := FreshSink.issued_remove removed context
  Lasts _ := True
  Keeps book standing := book.standing = standing
  keeps_add := by
    rintro book standing n rfl -
    exact book.standing_add n
  keeps_remove := by
    rintro book standing id context rfl
    exact book.standing_remove id context

/-- What a logbook keeps are the notes that stand in it. -/
theorem keeps_iff [FreshSink ν] {book : Logbook ν} {standing : List (NoteId × Note)} :
    NoteKeeper.Keeps book standing ↔ book.standing = standing :=
  .rfl

end Logbook

end SeriesAcl
