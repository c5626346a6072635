import Mathlib.Logic.Function.Basic
import SeriesAcl.Notice.Slot
import SeriesAcl.Proofs.Notice.Keeping

/-!
# Slots that share a sink

Any number of slots raise and clear their notes in one sink, to which others post as well, and from
which others take notes down. Beside the slots stands what was asked so far: the notes that were
posted without a slot and not taken down, the last note that each slot raised, and whether somebody
else has taken it down (`SharedSlots`). Whatever is asked of a slot, it does nothing, takes down its
own note, or does so and raises another one (`ask_cases`).
-/

namespace SeriesAcl

/-- What can be asked of a slot. -/
inductive SlotOp where
  | raise (n : Note)
  | ensure (n : Note)
  | clear
  | toggle (condition : Bool) (n : Note)

namespace SlotOp

/-- Carry out an operation on a slot. -/
def run {ν : Type} [NoteSink ν] (op : SlotOp) (s : Slot) (notes : ν) : Slot × ν :=
  match op with
  | .raise n => s.raise n notes
  | .ensure n => s.ensure n notes
  | .clear => s.clear notes
  | .toggle condition n => s.toggle condition n notes

/-- The note that an operation actually raises in a slot. -/
def raises? (op : SlotOp) (s : Slot) : Option Note :=
  match op with
  | .raise n => some n
  | .ensure n => if s.isRaised then none else some n
  | .clear => none
  | .toggle condition n => if condition then some n else none

/-- Whether a slot is raised after an operation. -/
def leavesRaised : SlotOp → Bool
  | .raise _ => true
  | .ensure _ => true
  | .clear => false
  | .toggle condition _ => condition

/-- The note that an operation is given. -/
def note? : SlotOp → Option Note
  | .raise n => some n
  | .ensure n => some n
  | .clear => none
  | .toggle _ n => some n

private theorem note?_of_raises? {op : SlotOp} {s : Slot} {n : Note} (h : op.raises? s = some n) :
    op.note? = some n := by
  cases op with
  | raise m => exact h
  | ensure m =>
    rw [raises?] at h
    split at h
    · cases h
    · exact h
  | clear => cases h
  | toggle condition m =>
    cases condition with
    | true => exact h
    | false => cases h

end SlotOp

/-- Slots that share a sink, and what happened so far: the ids that were handed out without a slot,
the notes that were posted without a slot and not taken down, the last note that each slot raised,
and whether it was taken down without the slot. -/
structure SharedSlots (ι ν : Type) where
  slots : ι → Slot
  notes : ν
  handed : List NoteId
  direct : List (NoteId × Note)
  latest : ι → Option (NoteId × Note)
  dismissed : ι → Bool

namespace SharedSlots

variable {ι ν : Type}

/-- Slots that show nothing, in a sink. -/
def make (notes : ν) : SharedSlots ι ν :=
  ⟨fun _ ↦ Slot.empty, notes, [], [], fun _ ↦ none, fun _ ↦ false⟩

/-- The note of a slot that is raised: the last one that it raised, unless it was dismissed. -/
def shown (x : SharedSlots ι ν) (i : ι) : List (NoteId × Note) :=
  (x.latest i).toList.filter fun _ ↦ (x.slots i).isRaised && !x.dismissed i

/-- What a slot shows is its last note, while it is raised and nobody has dismissed it. -/
theorem mem_shown {x : SharedSlots ι ν} {i : ι} {s : NoteId × Note} : s ∈ x.shown i ↔
    x.latest i = some s ∧ (x.slots i).isRaised = true ∧ x.dismissed i = false := by
  rw [shown, List.mem_filter, Option.mem_toList, Bool.and_eq_true, Bool.not_eq_true']

/-- A slot shows one note at most. -/
theorem shown_eq_nil_or_singleton (x : SharedSlots ι ν) (i : ι) :
    x.shown i = [] ∨ ∃ s, x.shown i = [s] := by
  unfold shown
  cases x.latest i with
  | none => exact .inl rfl
  | some s => cases (x.slots i).isRaised && !x.dismissed i <;> simp

/-- A slot that remembers no note shows none. -/
theorem shown_of_current_none {x : SharedSlots ι ν} {i : ι} (h : (x.slots i).current = none) :
    x.shown i = [] := by
  rw [shown, List.filter_eq_nil_iff]
  simp [Slot.isRaised, h]

/-- What a slot shows depends on its own state only. -/
theorem shown_congr {x y : SharedSlots ι ν} {i : ι} (hslot : y.slots i = x.slots i)
    (hlatest : y.latest i = x.latest i) (hdismissed : y.dismissed i = x.dismissed i) :
    y.shown i = x.shown i := by
  rw [shown, shown, hslot, hlatest, hdismissed]

/-- The last note that a slot raised, if it is raised. -/
def raisedNote (x : SharedSlots ι ν) (i : ι) : Option (NoteId × Note) :=
  if (x.slots i).isRaised then x.latest i else none

/-- No slot that is raised has lost its note to somebody else. -/
def Undisturbed (x : SharedSlots ι ν) : Prop :=
  ∀ i, (x.slots i).isRaised = true → x.dismissed i = false

/-- An undisturbed slot shows the note that it raised. -/
theorem Undisturbed.shown_eq {x : SharedSlots ι ν} (h : x.Undisturbed) (i : ι) :
    x.shown i = (x.raisedNote i).toList := by
  unfold shown raisedNote
  cases hraised : (x.slots i).isRaised with
  | false => simp
  | true => simp [h i hraised]

/-- Undisturbed, a slot that is raised was not dismissed. -/
theorem Undisturbed.isRaised_and {x : SharedSlots ι ν} (h : x.Undisturbed) (i : ι) :
    ((x.slots i).isRaised && !x.dismissed i) = (x.slots i).isRaised := by
  cases hraised : (x.slots i).isRaised with
  | false => rfl
  | true => simp [h i hraised]

/-- Every slot raises the same note each time. -/
def Labelled (x : SharedSlots ι ν) (label : ι → Note) : Prop :=
  ∀ i s, x.latest i = some s → s.2 = label i

variable [NoteSink ν]

/-- The slots after a note was posted without them. -/
def post (x : SharedSlots ι ν) (n : Note) : SharedSlots ι ν :=
  let (id, notes) := NoteSink.add n x.notes
  { x with
    notes := notes
    handed := x.handed ++ [id]
    direct := x.direct ++ [(id, n)] }

/-- The slots after a note was taken down without them. -/
def remove (x : SharedSlots ι ν) (id : NoteId) (context : String) : SharedSlots ι ν :=
  { x with
    notes := (NoteSink.remove id context x.notes).2
    direct := x.direct.filter (spared id context)
    dismissed := fun i ↦ x.dismissed i || (x.latest i).any fun s ↦ !spared id context s }

/-- What a removal spares of the note of a slot. -/
theorem shown_remove (x : SharedSlots ι ν) (id : NoteId) (context : String) (i : ι) :
    (x.remove id context).shown i = (x.shown i).filter (spared id context) := by
  simp only [shown, remove, List.filter_filter]
  cases x.latest i with
  | none => rfl
  | some s =>
    apply List.filter_congr
    intro s' hs
    rw [List.mem_singleton.mp hs, Option.any_some, Bool.not_or, Bool.not_not]
    simp only [Bool.and_comm, Bool.and_left_comm]

variable [DecidableEq ι]

/-- The slots after an operation of one of them. -/
def ask (x : SharedSlots ι ν) (i : ι) (op : SlotOp) : SharedSlots ι ν :=
  let (slot, notes) := op.run (x.slots i) x.notes
  let x' := { x with slots := Function.update x.slots i slot, notes := notes }
  match op.raises? (x.slots i) with
  | none => x'
  | some n => { x' with
      latest := Function.update x.latest i (slot.current.map fun own ↦ (own.1, n))
      dismissed := Function.update x.dismissed i false }

/-! ### Operations of a slot -/

/-- The slots after one of them has taken down its own note. -/
def vacate (x : SharedSlots ι ν) (i : ι) (own : NoteId × String) : SharedSlots ι ν :=
  { x with
    slots := Function.update x.slots i Slot.empty
    notes := (NoteSink.remove own.1 own.2 x.notes).2 }

/-- The slots after one that shows nothing has raised a note. -/
def fill (x : SharedSlots ι ν) (i : ι) (n : Note) : SharedSlots ι ν :=
  let (id, notes) := NoteSink.add n x.notes
  { x with
    slots := Function.update x.slots i ⟨some (id, n.context)⟩
    notes := notes
    latest := Function.update x.latest i (some (id, n))
    dismissed := Function.update x.dismissed i false }

/-- A slot that is vacated is empty, the others are as they were. -/
@[simp]
theorem slots_vacate (x : SharedSlots ι ν) (i : ι) (own : NoteId × String) :
    (x.vacate i own).slots = Function.update x.slots i Slot.empty :=
  rfl

/-- A slot that is filled remembers the posted note, the others are as they were. -/
@[simp]
theorem slots_fill (x : SharedSlots ι ν) (i : ι) (n : Note) : (x.fill i n).slots =
    Function.update x.slots i ⟨some ((NoteSink.add n x.notes).1, n.context)⟩ :=
  rfl

/-- The last note of a slot that is filled is the posted one. -/
@[simp]
theorem latest_fill (x : SharedSlots ι ν) (i : ι) (n : Note) : (x.fill i n).latest =
    Function.update x.latest i (some ((NoteSink.add n x.notes).1, n)) :=
  rfl

/-- A slot that is filled was not dismissed. -/
@[simp]
theorem dismissed_fill (x : SharedSlots ι ν) (i : ι) (n : Note) :
    (x.fill i n).dismissed = Function.update x.dismissed i false :=
  rfl

private theorem ask_clear_of_none {x : SharedSlots ι ν} {i : ι} (h : (x.slots i).current = none) :
    x.ask i .clear = x := by
  have hclear : (x.slots i).clear x.notes = (x.slots i, x.notes) := by
    rw [Slot.clear, h]
  simp only [ask, SlotOp.run, SlotOp.raises?, hclear, Function.update_eq_self]

private theorem ask_clear_of_some {x : SharedSlots ι ν} {i : ι} {own : NoteId × String}
    (h : (x.slots i).current = some own) : x.ask i .clear = x.vacate i own := by
  simp only [ask, vacate, SlotOp.run, SlotOp.raises?, Slot.clear, h]

/-- A slot that was cleared remembers no note. -/
theorem current_ask_clear (x : SharedSlots ι ν) (i : ι) :
    ((x.ask i .clear).slots i).current = none := by
  cases h : (x.slots i).current with
  | none => rw [ask_clear_of_none h, h]
  | some own =>
    rw [ask_clear_of_some h, slots_vacate, Function.update_self]
    rfl

/-- The own notes of slots after one of them has taken down its note. -/
theorem current_of_vacate {x : SharedSlots ι ν} {i j : ι} {own own' : NoteId × String}
    (h : ((x.vacate i own).slots j).current = some own') : (x.slots j).current = some own' := by
  rw [slots_vacate] at h
  by_cases hji : j = i
  · subst hji
    rw [Function.update_self] at h
    cases h
  · rwa [Function.update_of_ne hji] at h

/-- The own notes of slots after one of them has raised a note. -/
theorem current_of_fill {x : SharedSlots ι ν} {i j : ι} {n : Note} {own : NoteId × String}
    (h : ((x.fill i n).slots j).current = some own) :
    j = i ∧ own = ((NoteSink.add n x.notes).1, n.context) ∨
      j ≠ i ∧ (x.slots j).current = some own := by
  rw [slots_fill] at h
  by_cases hji : j = i
  · subst hji
    rw [Function.update_self] at h
    exact .inl ⟨rfl, (Option.some.inj h).symm⟩
  · rw [Function.update_of_ne hji] at h
    exact .inr ⟨hji, h⟩

/-- A slot that raises a note shows it, and the others show what they showed. -/
theorem shown_fill (x : SharedSlots ι ν) (i : ι) (n : Note) (j : ι) :
    (x.fill i n).shown j = if j = i then [((NoteSink.add n x.notes).1, n)] else x.shown j := by
  by_cases hji : j = i
  · subst hji
    rw [if_pos rfl]
    simp [shown, Slot.isRaised]
  · rw [if_neg hji]
    apply shown_congr
    · rw [slots_fill, Function.update_of_ne hji]
    · rw [latest_fill, Function.update_of_ne hji]
    · rw [dismissed_fill, Function.update_of_ne hji]

/-- To raise a note is to clear the slot and to fill it. -/
theorem ask_raise (x : SharedSlots ι ν) (i : ι) (n : Note) :
    x.ask i (.raise n) = (x.ask i .clear).fill i n := by
  simp only [ask, fill, SlotOp.run, SlotOp.raises?, Slot.raise, Function.update_idem,
    Option.map_some]

private theorem ask_ensure (x : SharedSlots ι ν) (i : ι) (n : Note) :
    x.ask i (.ensure n) = if (x.slots i).isRaised then x else x.ask i (.raise n) := by
  by_cases h : (x.slots i).isRaised = true
  · simp only [ask, SlotOp.run, SlotOp.raises?, Slot.ensure, h, if_true, Function.update_eq_self]
  · simp only [ask, SlotOp.run, SlotOp.raises?, Slot.ensure, if_neg h]

private theorem ask_toggle (x : SharedSlots ι ν) (i : ι) (condition : Bool) (n : Note) :
    x.ask i (.toggle condition n) = if condition then x.ask i (.raise n) else x.ask i .clear := by
  cases condition <;> rfl

/-- Clearing a slot does nothing or vacates it. -/
theorem clear_cases {P : SharedSlots ι ν → Prop} {x : SharedSlots ι ν} {i : ι} (hrest : P x)
    (hvacate : ∀ own, (x.slots i).current = some own → P (x.vacate i own)) :
    P (x.ask i .clear) := by
  cases hcurrent : (x.slots i).current with
  | none =>
    rw [ask_clear_of_none hcurrent]
    exact hrest
  | some own =>
    rw [ask_clear_of_some hcurrent]
    exact hvacate own hcurrent

/-- Every operation does nothing, clears its slot, or clears it and raises the note that it is
given. -/
theorem ask_cases {P : SharedSlots ι ν → Prop} {x : SharedSlots ι ν} {i : ι} {op : SlotOp}
    (hrest : P x) (hclear : P (x.ask i .clear))
    (hfill : ∀ n ∈ op.note?, P ((x.ask i .clear).fill i n)) : P (x.ask i op) := by
  cases op with
  | raise n =>
    rw [ask_raise]
    exact hfill n rfl
  | ensure n =>
    rw [ask_ensure, ask_raise]
    split
    · exact hrest
    · exact hfill n rfl
  | clear => exact hclear
  | toggle condition n =>
    rw [ask_toggle, ask_raise]
    split
    · exact hfill n rfl
    · exact hclear

/-! ### What an operation leaves -/

/-- An operation changes its own slot only. -/
theorem slots_ask (x : SharedSlots ι ν) (i : ι) (op : SlotOp) : (x.ask i op).slots =
    Function.update x.slots i (op.run (x.slots i) x.notes).1 := by
  simp only [ask]
  split <;> rfl

/-- Whether a slot is raised after an operation is up to the operation. -/
theorem isRaised_ask (x : SharedSlots ι ν) (i : ι) (op : SlotOp) :
    ((x.ask i op).slots i).isRaised = op.leavesRaised := by
  have hclear : ((x.ask i .clear).slots i).isRaised = false :=
    congrArg Option.isSome (x.current_ask_clear i)
  have hraise : ∀ n, ((x.ask i (.raise n)).slots i).isRaised = true := by
    intro n
    rw [ask_raise, slots_fill, Function.update_self]
    rfl
  cases op with
  | raise n => exact hraise n
  | ensure n =>
    rw [ask_ensure]
    split
    · next h => exact h
    · exact hraise n
  | clear => exact hclear
  | toggle condition n =>
    rw [ask_toggle]
    cases condition with
    | true => exact hraise n
    | false => exact hclear

/-- An operation does to the sink what it does with its slot alone. -/
theorem notes_ask (x : SharedSlots ι ν) (i : ι) (op : SlotOp) :
    (x.ask i op).notes = (op.run (x.slots i) x.notes).2 := by
  simp only [ask]
  split <;> rfl

/-- An operation of a slot leaves the notes that were posted without one. -/
theorem direct_ask (x : SharedSlots ι ν) (i : ι) (op : SlotOp) :
    (x.ask i op).direct = x.direct := by
  simp only [ask]
  split <;> rfl

/-- An operation of a slot leaves what other slots show. -/
theorem shown_ask_of_ne (x : SharedSlots ι ν) {i j : ι} (hji : j ≠ i) (op : SlotOp) :
    (x.ask i op).shown j = x.shown j := by
  simp only [ask]
  split <;> apply shown_congr <;> simp [Function.update_of_ne hji]

/-- An operation leaves whether other slots were dismissed. -/
theorem dismissed_ask_of_ne (x : SharedSlots ι ν) {i j : ι} (hji : j ≠ i) (op : SlotOp) :
    (x.ask i op).dismissed j = x.dismissed j := by
  simp only [ask]
  split
  · rfl
  · exact Function.update_of_ne hji false x.dismissed

/-- A note that is ensured is only lost if it was lost before. -/
theorem dismissed_ask_ensure (x : SharedSlots ι ν) (i : ι) (n : Note) :
    (x.ask i (.ensure n)).dismissed i = ((x.slots i).isRaised && x.dismissed i) := by
  rw [ask_ensure]
  split
  · next h => rw [h, Bool.true_and]
  · next h => rw [ask_raise, dismissed_fill, Function.update_self, Bool.eq_false_iff.mpr h,
      Bool.false_and]

/-- A slot that is asked to raise its label only ever raises this one. -/
theorem Labelled.ask {x : SharedSlots ι ν} {label : ι → Note} (h : x.Labelled label) (i : ι)
    {op : SlotOp} (hop : ∀ n ∈ op.note?, n = label i) :
    (x.ask i op).Labelled label := by
  intro j s hs
  simp only [SharedSlots.ask] at hs
  split at hs
  · exact h j s hs
  · next n hn =>
    dsimp only at hs
    by_cases hji : j = i
    · subst hji
      rw [Function.update_self, Option.map_eq_some_iff] at hs
      obtain ⟨own, -, rfl⟩ := hs
      exact hop n (SlotOp.note?_of_raises? hn)
    · rw [Function.update_of_ne hji] at hs
      exact h j s hs

namespace Undisturbed

variable {x : SharedSlots ι ν}

private theorem vacate (h : x.Undisturbed) (i : ι) (own : NoteId × String) :
    (x.vacate i own).Undisturbed := by
  intro j hj
  obtain ⟨own', hown⟩ := Option.isSome_iff_exists.mp hj
  exact h j (Option.isSome_iff_exists.mpr ⟨own', current_of_vacate hown⟩)

private theorem fill (h : x.Undisturbed) (i : ι) (n : Note) : (x.fill i n).Undisturbed := by
  intro j hj
  rw [slots_fill] at hj
  rw [dismissed_fill]
  by_cases hji : j = i
  · rw [hji, Function.update_self]
  · rw [Function.update_of_ne hji] at hj ⊢
    exact h j hj

private theorem clear (h : x.Undisturbed) (i : ι) : (x.ask i .clear).Undisturbed :=
  clear_cases h fun own _ ↦ h.vacate i own

/-- No operation of a slot disturbs another one. -/
theorem ask (h : x.Undisturbed) (i : ι) (op : SlotOp) : (x.ask i op).Undisturbed :=
  ask_cases h (h.clear i) fun n _ ↦ (h.clear i).fill i n

end Undisturbed

end SharedSlots

end SeriesAcl
