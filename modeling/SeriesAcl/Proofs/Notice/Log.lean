import Mathlib.Data.List.Sort
import SeriesAcl.Proofs.Notice.Boards

/-!
# Boards and a log that is never purged

A log keeps every note with the time at which it was posted, and only a removal takes one out. A
board drops the notes that have expired whenever one is posted, and keeps the others by context.
Whatever was posted and taken down, a board shows what the log shows (`reads_run`): of a context the
notes in the order in which they were posted, and of all contexts the stable sort of these notes,
whatever the order in which the contexts are gone through.
-/

namespace SeriesAcl

/-! ### Sorting that keeps the order of ties -/

section Sorting

variable {α : Type} {le : α → α → Bool}

/-- Whether two elements may stand before each other. -/
def tied (le : α → α → Bool) (a b : α) : Bool :=
  le a b && le b a

/-- Elements that may all stand before each other keep their order. -/
theorem filter_mergeSort (htrans : ∀ a b c, le a b = true → le b c = true → le a c = true)
    (htotal : ∀ a b, (le a b || le b a) = true) {keep : α → Bool}
    (htie : ∀ a b, keep a = true → keep b = true → le a b = true) (xs : List α) :
    (xs.mergeSort le).filter keep = xs.filter keep := by
  have hsorted : (xs.filter keep).Pairwise fun a b ↦ le a b = true :=
    List.pairwise_of_forall_mem_list fun a ha b hb ↦
      htie a b (List.mem_filter.mp ha).2 (List.mem_filter.mp hb).2
  have hsub : (xs.filter keep).Sublist (xs.mergeSort le) :=
    List.sublist_mergeSort htrans htotal hsorted List.filter_sublist
  have hkept := hsub.filter keep
  rw [List.filter_filter, funext fun a ↦ Bool.and_self (keep a)] at hkept
  exact (hkept.eq_of_length ((List.mergeSort_perm xs le).filter keep).length_eq.symm).symm

/-- Two sorted lists with the same ties in the same order are equal. -/
theorem eq_of_filter_tied (hrefl : ∀ a, le a a = true) {xs ys : List α}
    (hxs : xs.Pairwise fun a b ↦ le a b = true) (hys : ys.Pairwise fun a b ↦ le a b = true)
    (h : ∀ a, xs.filter (tied le a) = ys.filter (tied le a)) : xs = ys := by
  have hself : ∀ a, tied le a a = true := by simp [tied, hrefl]
  have hmem : ∀ a, a ∈ xs ↔ a ∈ ys := by
    intro a
    have hiff : a ∈ xs.filter (tied le a) ↔ a ∈ ys.filter (tied le a) := by rw [h a]
    simpa [hself] using hiff
  induction xs generalizing ys with
  | nil =>
    symm
    rw [List.eq_nil_iff_forall_not_mem]
    exact fun a ha ↦ List.not_mem_nil ((hmem a).mpr ha)
  | cons x xs ih =>
    cases ys with
    | nil => exact absurd ((hmem x).mp List.mem_cons_self) List.not_mem_nil
    | cons y ys =>
      obtain ⟨hx, hxrest⟩ := List.pairwise_cons.mp hxs
      obtain ⟨hy, hyrest⟩ := List.pairwise_cons.mp hys
      -- Each head stands before the other one, so both head the list of their ties.
      have hxy : le x y = true := by
        rcases List.mem_cons.mp ((hmem y).mpr List.mem_cons_self) with rfl | hmem
        · exact hrefl y
        · exact hx y hmem
      have hyx : le y x = true := by
        rcases List.mem_cons.mp ((hmem x).mp List.mem_cons_self) with rfl | hmem
        · exact hrefl x
        · exact hy x hmem
      have htied : tied le x y = true := by simp [tied, hxy, hyx]
      have hhead := h x
      rw [List.filter_cons_of_pos (hself x), List.filter_cons_of_pos htied] at hhead
      obtain rfl := (List.cons.inj hhead).1
      have hrest : ∀ a, xs.filter (tied le a) = ys.filter (tied le a) := by
        intro a
        have ha := h a
        by_cases hax : tied le a x = true
        · rw [List.filter_cons_of_pos hax, List.filter_cons_of_pos hax] at ha
          exact (List.cons.inj ha).2
        · rw [List.filter_cons_of_neg hax, List.filter_cons_of_neg hax] at ha
          exact ha
      refine congrArg (x :: ·) (ih hxrest hyrest hrest fun a ↦ ?_)
      have hiff : a ∈ xs.filter (tied le a) ↔ a ∈ ys.filter (tied le a) := by rw [hrest a]
      simpa [hself] using hiff

end Sorting

/-! ### The order of notes -/

/-- A list of notes is the stable sort of another by context and key: it is in order, and the notes
of one context and one key stand in it as they stood. -/
structure StableSort (notes sorted : List Note) : Prop where
  ordered : sorted.Pairwise fun a b ↦ a.context < b.context ∨ a.context = b.context ∧ a.key ≤ b.key
  ties : ∀ context key, sorted.filter (fun n ↦ n.context == context && n.key == key) =
    notes.filter fun n ↦ n.context == context && n.key == key

namespace Board

private theorem isLE_compare_iff (a b : String) : (compare a b).isLE = true ↔ a ≤ b := by
  rw [Ordering.isLE_iff_ne_gt, Std.OrientedCmp.gt_iff_lt, ← String.not_lt, not_iff_not]
  exact compareOfLessAndEq_eq_lt

private theorem noteLE_iff (a b : Note) :
    noteLE a b = true ↔ a.context < b.context ∨ a.context = b.context ∧ a.key ≤ b.key := by
  have hlt : compare a.context b.context = .lt ↔ a.context < b.context := compareOfLessAndEq_eq_lt
  have heq : compare a.context b.context = .eq ↔ a.context = b.context :=
    Std.LawfulEqCmp.compare_eq_iff_eq
  rw [noteLE, ← hlt, ← heq, ← isLE_compare_iff]
  cases compare a.context b.context <;> simp

private theorem noteLE_trans (a b c : Note) (h : noteLE a b = true) (h' : noteLE b c = true) :
    noteLE a c = true :=
  @Std.TransCmp.isLE_trans Note (compareLex (compareOn Note.context) (compareOn Note.key)) _ a b c
    h h'

private theorem noteLE_total (a b : Note) : (noteLE a b || noteLE b a) = true := by
  rw [Bool.or_eq_true, noteLE_iff, noteLE_iff]
  by_cases hc : a.context = b.context
  · rcases String.le_total a.key b.key with hk | hk
    · exact .inl (.inr ⟨hc, hk⟩)
    · exact .inr (.inr ⟨hc.symm, hk⟩)
  · rcases String.le_total a.context b.context with h | h
    · exact .inl (.inl (Std.lt_of_le_of_ne h hc))
    · exact .inr (.inl (Std.lt_of_le_of_ne h (Ne.symm hc)))

/-- Notes are tied when they have one context and one key. -/
theorem tied_noteLE (a : Note) :
    tied noteLE a = fun n ↦ n.context == a.context && n.key == a.key := by
  funext n
  rw [Bool.eq_iff_iff, tied, Bool.and_eq_true, Bool.and_eq_true, beq_iff_eq, beq_iff_eq,
    noteLE_iff, noteLE_iff]
  constructor
  · rintro ⟨hlt | ⟨hc, hk⟩, hlt' | ⟨hc', hk'⟩⟩
    · exact absurd hlt' (String.lt_asymm hlt)
    · exact absurd (hc' ▸ hlt) (String.lt_irrefl _)
    · exact absurd (hc ▸ hlt') (String.lt_irrefl _)
    · exact ⟨hc', String.le_antisymm hk' hk⟩
  · rintro ⟨hc, hk⟩
    rw [hc, hk]
    exact ⟨.inr ⟨rfl, String.le_refl _⟩, .inr ⟨rfl, String.le_refl _⟩⟩

end Board

namespace StableSort

private theorem mergeSort (notes : List Note) :
    StableSort notes (notes.mergeSort Board.noteLE) where
  ordered := (List.pairwise_mergeSort Board.noteLE_trans Board.noteLE_total notes).imp
    fun h ↦ (Board.noteLE_iff _ _).mp h
  ties context key := by
    apply filter_mergeSort Board.noteLE_trans Board.noteLE_total
    intro a b ha hb
    rw [Bool.and_eq_true, beq_iff_eq, beq_iff_eq] at ha hb
    rw [Board.noteLE_iff, ha.1, ha.2, hb.1, hb.2]
    exact .inr ⟨rfl, String.le_refl _⟩

/-- A list has one stable sort. -/
theorem unique {notes xs ys : List Note} (hx : StableSort notes xs) (hy : StableSort notes ys) :
    xs = ys := by
  have hle : ∀ {sorted}, StableSort notes sorted →
      sorted.Pairwise fun a b ↦ Board.noteLE a b = true :=
    fun h ↦ h.ordered.imp fun hab ↦ (Board.noteLE_iff _ _).mpr hab
  have hrefl : ∀ a, Board.noteLE a a = true :=
    fun a ↦ (Board.noteLE_iff a a).mpr (.inr ⟨rfl, String.le_refl _⟩)
  apply eq_of_filter_tied hrefl (hle hx) (hle hy)
  intro a
  rw [Board.tied_noteLE, hx.ties, hy.ties]

end StableSort

/-! ### All contexts of a board -/

private theorem Dict.flatMap_eq_lookup {α : Type} {entries : List (String × List α)}
    (h : (entries.map Prod.fst).Nodup) (key : String) :
    (entries.flatMap fun e ↦ if e.1 = key then e.2 else []) = (lookup key entries).getD [] := by
  induction entries with
  | nil => rfl
  | cons e rest ih =>
    obtain ⟨hfirst, hrest⟩ := List.nodup_cons.mp h
    rw [List.flatMap_cons, ih hrest, lookup]
    by_cases he : e.1 = key
    · have hnone : lookup key rest = none := by
        apply lookup_eq_none
        rintro f hf rfl
        exact hfirst (List.mem_map.mpr ⟨f, hf, he.symm⟩)
      rw [if_pos he, if_pos he, hnone]
      exact List.append_nil _
    · rw [if_neg he, if_neg he]
      rfl

namespace Board

variable {b : Board}

/-- A removal takes no time. -/
@[simp]
theorem now_remove (id : NoteId) (context : String) : (b.remove id context).2.now = b.now := by
  unfold remove
  split <;> rfl

/-- A removal gives out no id. -/
@[simp]
theorem nextId_remove (id : NoteId) (context : String) :
    (b.remove id context).2.nextId = b.nextId := by
  unfold remove
  split <;> rfl

/-- Every note is kept under its own context. -/
def Placed (b : Board) : Prop :=
  ∀ context, ∀ p ∈ b.posted context, p.note.context = context

/-- The notes that a board keeps, its contexts gone through in some order. -/
def keptIn (order : List (String × List Posted)) : List Posted :=
  order.flatMap (·.2)

/-- All notes that are shown, by context and key, when the contexts are gone through in some
order. -/
def allIn (b : Board) (order : List (String × List Posted)) : List Note :=
  (((keptIn order).filter (·.isLive b.now)).map (·.note)).mergeSort noteLE

/-- In whatever order the contexts are gone through, those of a context are found in their order. -/
theorem filter_keptIn (hs : b.contexts.Sorted) (hp : b.Placed)
    {order : List (String × List Posted)} (horder : order.Perm b.contexts.entries)
    (context : String) :
    (keptIn order).filter (fun p ↦ p.note.context == context) = b.posted context := by
  have hkeys : (order.map Prod.fst).Nodup :=
    (horder.map Prod.fst).nodup_iff.mpr hs.nodup_keys
  have hposted : ∀ e ∈ order, b.posted e.1 = e.2 := by
    intro e he
    have hget : b.contexts.get? e.1 = some e.2 :=
      (Dict.lookup_eq_some_iff hs.nodup_keys).mpr (horder.mem_iff.mp he)
    rw [posted, hget, Option.getD_some]
  have hone : ∀ e ∈ order, e.2.filter (fun p ↦ p.note.context == context) =
      if e.1 = context then e.2 else [] := by
    intro e he
    have hplaced := hp e.1
    rw [hposted e he] at hplaced
    by_cases hc : e.1 = context
    · rw [if_pos hc, List.filter_eq_self]
      exact fun p hpe ↦ beq_iff_eq.mpr ((hplaced p hpe).trans hc)
    · rw [if_neg hc, List.filter_eq_nil_iff]
      exact fun p hpe hpc ↦ hc ((hplaced p hpe).symm.trans (beq_iff_eq.mp hpc))
  have hlookup : Dict.lookup context order = b.contexts.get? context := by
    ext notes
    rw [Dict.lookup_eq_some_iff hkeys, Dict.get?, Dict.lookup_eq_some_iff hs.nodup_keys,
      horder.mem_iff]
  rw [keptIn, List.filter_flatMap, List.flatMap_congr hone, Dict.flatMap_eq_lookup hkeys, hlookup]
  rfl

end Board

/-! ### The log -/

/-- A note in a log, with the time at which it was posted. -/
structure Logged where
  id : NoteId
  note : Note
  postedAt : Nat
  deriving DecidableEq, Repr

namespace Logged

/-- Whether a note has not expired at a time. -/
def isUnexpired (e : Logged) (now : Nat) : Bool :=
  match e.note.duration with
  | none => true
  | some duration => now < e.postedAt + duration

/-- The note as a board keeps it. -/
def toPosted (e : Logged) : Posted :=
  ⟨e.id, e.note, e.note.duration.map (e.postedAt + ·)⟩

private theorem isLive_toPosted (e : Logged) (now : Nat) :
    e.toPosted.isLive now = e.isUnexpired now := by
  unfold isUnexpired toPosted Posted.isLive
  cases e.note.duration <;> rfl

end Logged

/-- A log of notes: those that were posted and not taken down, in the order of their posting. -/
structure NoteLog where
  now : Nat
  nextId : Nat
  notes : List Logged

namespace NoteLog

/-- A log without notes. -/
def empty : NoteLog := ⟨0, 0, []⟩

/-- The log at a later time. -/
def advance (l : NoteLog) (milliseconds : Nat) : NoteLog :=
  { l with now := l.now + milliseconds }

/-- Post a note. -/
def add (n : Note) (l : NoteLog) : NoteLog :=
  { l with nextId := l.nextId + 1, notes := l.notes ++ [⟨⟨l.nextId⟩, n, l.now⟩] }

/-- Take down a note of a context. -/
def remove (id : NoteId) (context : String) (l : NoteLog) : NoteLog :=
  { l with notes := l.notes.filter fun e ↦ !(e.id == id && e.note.context == context) }

/-- The notes that have not expired. -/
def unexpired (l : NoteLog) : List Note :=
  (l.notes.filter (·.isUnexpired l.now)).map (·.note)

end NoteLog

/-- What is asked of a board between two readings. -/
inductive BoardCall where
  | add (n : Note)
  | remove (id : NoteId) (context : String)
  | wait (milliseconds : Nat)

/-- A board after a call. -/
def Board.serve (b : Board) : BoardCall → Board
  | .add n => (b.add n).2
  | .remove id context => (b.remove id context).2
  | .wait milliseconds => b.advance milliseconds

/-- A log after a call. -/
def NoteLog.serve (l : NoteLog) : BoardCall → NoteLog
  | .add n => l.add n
  | .remove id context => l.remove id context
  | .wait milliseconds => l.advance milliseconds

/-! ### A board beside a log -/

/-- A note that is shown was shown before. -/
theorem Posted.isLive_of_le {p : Posted} {now later : Nat} (h : now ≤ later)
    (hlive : p.isLive later = true) : p.isLive now = true := by
  unfold isLive at hlive ⊢
  split at hlive
  · rfl
  · exact decide_eq_true (lt_of_le_of_lt h (of_decide_eq_true hlive))

namespace Board

/-- A board and a log of the same calls: from now on every context shows the notes that are in the
log. -/
structure Agrees (b : Board) (l : NoteLog) : Prop where
  now : b.now = l.now
  nextId : b.nextId = l.nextId
  sorted : b.contexts.Sorted
  placed : b.Placed
  posted : ∀ context later, b.now ≤ later → (b.posted context).filter (·.isLive later) =
    ((l.notes.map Logged.toPosted).filter fun p ↦ p.note.context == context).filter
      (·.isLive later)

namespace Agrees

variable {b : Board} {l : NoteLog}

private theorem empty : Board.empty.Agrees NoteLog.empty :=
  ⟨rfl, rfl, List.Pairwise.nil, nofun, fun _ _ _ ↦ rfl⟩

private theorem advance (h : b.Agrees l) (milliseconds : Nat) :
    (b.advance milliseconds).Agrees (l.advance milliseconds) where
  now := congrArg (· + milliseconds) h.now
  nextId := h.nextId
  sorted := h.sorted
  placed := h.placed
  posted context later hlater := h.posted context later (le_trans (Nat.le_add_right _ _) hlater)

/-- What a posting drops is not shown at any later time. -/
theorem add (h : b.Agrees l) (n : Note) : (b.add n).2.Agrees (l.add n) where
  now := h.now
  nextId := congrArg (· + 1) h.nextId
  sorted := sorted_add h.sorted n
  placed := by
    intro context p hp
    rw [posted_add h.sorted] at hp
    rcases List.mem_append.mp hp with hp | hp
    · exact h.placed context p (List.mem_filter.mp hp).1
    · split at hp
      · next hc =>
        rw [List.mem_singleton.mp hp]
        exact hc
      · cases hp
  posted context later hlater := by
    have hnow : b.now ≤ later := hlater
    have hdropped : ((b.posted context).filter (·.isLive b.now)).filter (·.isLive later) =
        (b.posted context).filter (·.isLive later) := by
      rw [List.filter_filter]
      apply List.filter_congr
      intro p _
      cases hp : p.isLive later with
      | false => rfl
      | true => exact Posted.isLive_of_le hnow hp
    rw [posted_add h.sorted, List.filter_append, hdropped, h.posted context later hnow,
      NoteLog.add, List.map_append, List.filter_append, List.filter_append]
    congr 2
    rw [h.now, h.nextId]
    by_cases hc : n.context = context <;> simp [Logged.toPosted, hc]

private theorem remove (h : b.Agrees l) (id : NoteId) (removed : String) :
    (b.remove id removed).2.Agrees (l.remove id removed) where
  now := by rw [now_remove]; exact h.now
  nextId := by rw [nextId_remove]; exact h.nextId
  sorted := sorted_remove h.sorted id removed
  placed := by
    intro context p hp
    rw [posted_remove] at hp
    split at hp
    · exact h.placed context p (List.mem_filter.mp hp).1
    · exact h.placed context p hp
  posted context later hlater := by
    rw [now_remove] at hlater
    have hlog := h.posted context later hlater
    have hremoved : (l.remove id removed).notes.map Logged.toPosted =
        (l.notes.map Logged.toPosted).filter
          fun p ↦ !(p.id == id && p.note.context == removed) := by
      rw [List.filter_map]
      rfl
    rw [posted_remove, hremoved]
    generalize l.notes.map Logged.toPosted = notes at hlog ⊢
    by_cases hc : removed = context
    · rw [if_pos hc, List.filter_comm, hlog, List.filter_filter, List.filter_filter,
        List.filter_filter, List.filter_filter]
      apply List.filter_congr
      intro p _
      subst hc
      by_cases hp : p.note.context = removed <;> by_cases hid : p.id = id <;> simp [hp, hid]
    · rw [if_neg hc, hlog, List.filter_filter, List.filter_filter, List.filter_filter]
      apply List.filter_congr
      intro p _
      by_cases hp : p.note.context = context
      · simp [hp, Ne.symm hc]
      · simp [hp]

private theorem serve (h : b.Agrees l) (call : BoardCall) :
    (b.serve call).Agrees (l.serve call) := by
  cases call with
  | add n => exact h.add n
  | remove id context => exact h.remove id context
  | wait milliseconds => exact h.advance milliseconds

private theorem run (h : b.Agrees l) (calls : List BoardCall) :
    (calls.foldl Board.serve b).Agrees (calls.foldl NoteLog.serve l) := by
  induction calls generalizing b l with
  | nil => exact h
  | cons call rest ih => exact ih (h.serve call)

/-! ### What is read -/

private theorem unexpired_eq (l : NoteLog) :
    l.unexpired = ((l.notes.map Logged.toPosted).filter (·.isLive l.now)).map (·.note) := by
  rw [List.filter_map, List.map_map]
  have hlive : (fun e : Logged ↦ e.toPosted.isLive l.now) = (·.isUnexpired l.now) :=
    funext fun e ↦ e.isLive_toPosted l.now
  rw [show ((fun p ↦ Posted.isLive p l.now) ∘ Logged.toPosted) = _ from hlive]
  rfl

private theorem active_eq (h : b.Agrees l) (context : String) :
    b.active context = l.unexpired.filter fun n ↦ n.context == context := by
  rw [active, h.posted context b.now (le_refl _), unexpired_eq, h.now, List.filter_comm]
  generalize l.notes.map Logged.toPosted = notes
  rw [List.filter_map]
  rfl

private theorem has_iff_exists (h : b.Agrees l) (context key : String) :
    b.has context key = true ↔ ∃ n ∈ l.unexpired, n.context = context ∧ n.key = key := by
  rw [has, h.active_eq, List.any_eq_true]
  simp [and_assoc]

/-- The notes of one context that are shown, in whatever order the contexts are gone through. -/
theorem filter_shownIn (h : b.Agrees l) {order : List (String × List Posted)}
    (horder : order.Perm b.contexts.entries) (context : String) :
    (((keptIn order).filter (·.isLive b.now)).map (·.note)).filter (fun n ↦ n.context == context) =
      l.unexpired.filter fun n ↦ n.context == context := by
  rw [← h.active_eq, active, ← filter_keptIn h.sorted h.placed horder, List.filter_map,
    List.filter_comm]
  rfl

private theorem stableSort_allIn (h : b.Agrees l) {order : List (String × List Posted)}
    (horder : order.Perm b.contexts.entries) : StableSort l.unexpired (b.allIn order) := by
  have hsort := StableSort.mergeSort (((keptIn order).filter (·.isLive b.now)).map (·.note))
  refine ⟨hsort.ordered, fun context key ↦ ?_⟩
  have hsplit : ∀ notes : List Note,
      notes.filter (fun n ↦ n.context == context && n.key == key) =
        (notes.filter fun n ↦ n.context == context).filter fun n ↦ n.key == key := by
    intro notes
    rw [List.filter_filter]
    exact List.filter_congr fun n _ ↦ Bool.and_comm _ _
  rw [allIn, hsort.ties, hsplit, hsplit, h.filter_shownIn horder]

end Agrees

/-- To purge notes that have expired makes no difference. After any calls and at any later time a
board shows the notes of a context that the log has and that have not expired, in the order of their
posting; and the list of all notes is the stable sort of those of the log by context and key, in
whatever order the contexts are gone through. -/
theorem reads_run (calls : List BoardCall) (later : Nat) :
    let b := (calls.foldl Board.serve Board.empty).advance later
    let l := (calls.foldl NoteLog.serve NoteLog.empty).advance later
    (∀ context, b.active context = l.unexpired.filter fun n ↦ n.context == context) ∧
      (∀ context key, b.has context key = true ↔
        ∃ n ∈ l.unexpired, n.context = context ∧ n.key = key) ∧
      StableSort l.unexpired b.all ∧
      ∀ order, order.Perm b.contexts.entries → b.allIn order = b.all := by
  intro b l
  have h : b.Agrees l := (Agrees.empty.run calls).advance later
  have hall : StableSort l.unexpired b.all := h.stableSort_allIn (.refl _)
  refine ⟨h.active_eq, h.has_iff_exists, hall, ?_⟩
  intro order horder
  exact (h.stableSort_allIn horder).unique hall

end Board

end SeriesAcl
