import Mathlib.Algebra.BigOperators.Group.Finset.Piecewise
import SeriesAcl.Proofs.Notice.SharedSlots

/-!
# What stands in a shared sink

What stands in a sink that keeps its notes is told from what was asked of the slots that share it
(`Sound`): the notes that were posted without a slot and not taken down, and for every raised slot
the note that it raised last, unless somebody else has taken it down. An operation of a slot changes
what this slot shows and nothing else (`Sound.ask`). When nobody disturbs the slots, they take down
no note that does not stand (`Sound.faithful_ask`).
-/

namespace SeriesAcl.SharedSlots

private theorem filter_sum {ι α : Type} (p : α → Prop) [DecidablePred p] (s : Finset ι)
    (f : ι → Multiset α) : (∑ i ∈ s, f i).filter p = ∑ i ∈ s, (f i).filter p := by
  induction s using Finset.cons_induction with
  | empty => exact Multiset.filter_zero p
  | cons i s hi ih => rw [Finset.sum_cons, Finset.sum_cons, Multiset.filter_add, ih]

section Sound

variable {ι ν : Type} [NoteSink ν] [NoteKeeper ν] [Fintype ι]

/-- What stands in the sink is what was posted without a slot and what the slots show; every slot
knows its own note, which is that of no other slot and was not posted without one. -/
structure Sound (x : SharedSlots ι ν) (standing : List (NoteId × Note)) : Prop where
  keeps : NoteKeeper.Keeps x.notes standing
  standing : (standing : Multiset (NoteId × Note)) =
    x.direct + ∑ i, (x.shown i : Multiset (NoteId × Note))
  own : ∀ i own, (x.slots i).current = some own →
    FreshSink.Issued x.notes own.1 ∧ ∃ n, x.latest i = some (own.1, n) ∧ n.context = own.2
  apart : ∀ i j own own', i ≠ j → (x.slots i).current = some own →
    (x.slots j).current = some own' → own.1 ≠ own'.1
  handed : ∀ id ∈ x.handed, FreshSink.Issued x.notes id ∧
    ∀ i own, (x.slots i).current = some own → id ≠ own.1
  direct : ∀ s ∈ x.direct, s.1 ∈ x.handed

namespace Sound

variable {x : SharedSlots ι ν} {standing : List (NoteId × Note)}

/-- Slots that show nothing are sound in a sink that keeps nothing. -/
theorem make {notes : ν} (h : NoteKeeper.Keeps notes []) :
    (make notes : SharedSlots ι ν).Sound [] where
  keeps := h
  standing := ((zero_add _).trans (Finset.sum_eq_zero fun _ _ ↦ rfl)).symm
  own := nofun
  apart := nofun
  handed := nofun
  direct := nofun

/-! ### Reading off -/

/-- What slots and others posted stands. -/
theorem mem_standing (h : x.Sound standing) {s : NoteId × Note} :
    s ∈ standing ↔ s ∈ x.direct ∨ ∃ i, s ∈ x.shown i := by
  rw [← Multiset.mem_coe, h.standing, Multiset.mem_add, Multiset.mem_coe, Multiset.mem_sum]
  simp

/-- What is left of all notes is what is left of those of each. -/
theorem filter_standing (h : x.Sound standing) (p : NoteId × Note → Bool) :
    ((standing.filter p : List (NoteId × Note)) : Multiset (NoteId × Note)) =
      (x.direct.filter p : List (NoteId × Note)) +
        ∑ i, (((x.shown i).filter p : List (NoteId × Note)) : Multiset (NoteId × Note)) := by
  have hcoe : ∀ notes : List (NoteId × Note), ((notes.filter p : List (NoteId × Note)) :
      Multiset (NoteId × Note)) = (notes : Multiset (NoteId × Note)).filter (p · = true) := by
    intro notes
    simp [Multiset.filter_coe]
  rw [hcoe, h.standing, Multiset.filter_add, filter_sum, hcoe]
  simp only [hcoe]

/-- Of the notes with the label of one slot, what stands is what this slot shows. -/
theorem filter_eq_shown (h : x.Sound standing) {label : ι → Note} (hlabel : x.Labelled label)
    {p : Note → Bool} (hdirect : ∀ s ∈ x.direct, ¬p s.2 = true) {i : ι}
    (hp : ∀ j, p (label j) = true ↔ j = i) :
    standing.filter (fun s ↦ p s.2) = x.shown i := by
  have hshown : ∀ j, ∀ s ∈ x.shown j, p s.2 = true ↔ j = i := by
    intro j s hs
    rw [hlabel j s (mem_shown.mp hs).1]
    exact hp j
  have hperm : (standing.filter fun s ↦ p s.2).Perm (x.shown i) := by
    rw [← Multiset.coe_eq_coe, h.filter_standing, List.filter_eq_nil_iff.mpr hdirect,
      Multiset.coe_nil, zero_add, Finset.sum_eq_single i]
    · rw [List.filter_eq_self.mpr fun s hs ↦ (hshown i s hs).mpr rfl]
    · intro j _ hji
      rw [List.filter_eq_nil_iff.mpr fun s hs hps ↦ hji ((hshown j s hs).mp hps)]
      rfl
    · exact fun hi ↦ absurd (Finset.mem_univ i) hi
  rcases x.shown_eq_nil_or_singleton i with hnil | ⟨s, hs⟩
  · rw [hnil] at hperm ⊢
    exact hperm.eq_nil
  · rw [hs] at hperm ⊢
    exact hperm.eq_singleton

/-- A slot that is raised shows its own note. -/
theorem eq_of_mem_shown (h : x.Sound standing) {i : ι} {own : NoteId × String}
    (hcurrent : (x.slots i).current = some own) {s : NoteId × Note} (hs : s ∈ x.shown i) :
    s.1 = own.1 ∧ s.2.context = own.2 := by
  obtain ⟨-, n, hlatest, hcontext⟩ := h.own i own hcurrent
  have hs' := (mem_shown.mp hs).1
  rw [hlatest, Option.some.injEq] at hs'
  exact hs' ▸ ⟨rfl, hcontext⟩

/-- A slot shows its label as long as it is raised and its note was not dismissed. -/
theorem map_shown (h : x.Sound standing) {label : ι → Note} (hlabel : x.Labelled label) (i : ι) :
    (x.shown i).map Prod.snd =
      if ((x.slots i).isRaised && !x.dismissed i) = true then [label i] else [] := by
  split
  · next hc =>
    rw [Bool.and_eq_true, Bool.not_eq_true'] at hc
    obtain ⟨own, hcurrent⟩ := Option.isSome_iff_exists.mp hc.1
    obtain ⟨-, n, hlatest, -⟩ := h.own i own hcurrent
    have hn : n = label i := hlabel i (own.1, n) hlatest
    simp [shown, hlatest, hc, hn]
  · next hc => simp [shown, hc]

/-! ### Without a slot -/

/-- A note that lasts is kept behind those before it. -/
theorem post (h : x.Sound standing) {n : Note} (hn : NoteKeeper.Lasts ν n) :
    (x.post n).Sound (standing ++ [((NoteSink.add n x.notes).1, n)]) where
  keeps := NoteKeeper.keeps_add h.keeps hn
  standing := by
    show _ = ((x.direct ++ [((NoteSink.add n x.notes).1, n)] : List (NoteId × Note)) :
      Multiset (NoteId × Note)) + ∑ i, (x.shown i : Multiset (NoteId × Note))
    rw [← Multiset.coe_add, ← Multiset.coe_add, h.standing, add_right_comm]
  own i own hcurrent :=
    (h.own i own hcurrent).imp (FreshSink.issued_add n) fun hlatest ↦ hlatest
  apart := h.apart
  handed := by
    intro id hid
    rcases List.mem_append.mp hid with hid | hid
    · exact (h.handed id hid).imp (FreshSink.issued_add n) fun hother ↦ hother
    · rw [List.mem_singleton.mp hid]
      refine ⟨FreshSink.issued_new n x.notes, ?_⟩
      intro i own hcurrent heq
      exact FreshSink.not_issued n x.notes (heq ▸ (h.own i own hcurrent).1)
  direct := by
    intro s hs
    rcases List.mem_append.mp hs with hs | hs
    · exact List.mem_append_left _ (h.direct s hs)
    · rw [List.mem_singleton.mp hs]
      exact List.mem_append_right _ (List.mem_singleton_self _)

/-- A removal takes down the notes that it does not spare. -/
theorem remove (h : x.Sound standing) (id : NoteId) (context : String) :
    (x.remove id context).Sound (standing.filter (spared id context)) where
  keeps := NoteKeeper.keeps_remove id context h.keeps
  standing := by
    rw [h.filter_standing]
    congr 1
    exact Finset.sum_congr rfl fun i _ ↦ by rw [shown_remove]
  own i own hcurrent :=
    (h.own i own hcurrent).imp (FreshSink.issued_remove id context) fun hlatest ↦ hlatest
  apart := h.apart
  handed id' hid :=
    (h.handed id' hid).imp (FreshSink.issued_remove id context) fun hother ↦ hother
  direct s hs := h.direct s (List.mem_filter.mp hs).1

/-! ### With a slot -/

variable [DecidableEq ι]

/-- When a slot takes down its own note, the others show what they showed. -/
theorem shown_vacate (h : x.Sound standing) {i : ι} {own : NoteId × String}
    (hcurrent : (x.slots i).current = some own) (j : ι) :
    (x.vacate i own).shown j = (x.shown j).filter (spared own.1 own.2) := by
  by_cases hji : j = i
  · subst hji
    rw [shown_of_current_none, List.filter_eq_nil_iff.mpr]
    · intro s hs
      obtain ⟨hid, hcontext⟩ := h.eq_of_mem_shown hcurrent hs
      simp [spared, hid, hcontext]
    · rw [slots_vacate, Function.update_self]
      rfl
  · rw [List.filter_eq_self.mpr]
    · apply shown_congr
      · rw [slots_vacate, Function.update_of_ne hji]
      · rfl
      · rfl
    · intro s hs
      apply spared_of_ne
      obtain ⟨own', hown⟩ := Option.isSome_iff_exists.mp (mem_shown.mp hs).2.1
      rw [(h.eq_of_mem_shown hown hs).1]
      exact h.apart j i own' own hji hown hcurrent

/-- A slot takes down its own note, and no other. -/
theorem vacate (h : x.Sound standing) {i : ι} {own : NoteId × String}
    (hcurrent : (x.slots i).current = some own) :
    (x.vacate i own).Sound (standing.filter (spared own.1 own.2)) where
  keeps := NoteKeeper.keeps_remove own.1 own.2 h.keeps
  standing := by
    have hdirect : x.direct.filter (spared own.1 own.2) = x.direct := by
      rw [List.filter_eq_self]
      intro s hs
      exact spared_of_ne ((h.handed s.1 (h.direct s hs)).2 i own hcurrent) own.2
    rw [h.filter_standing, hdirect]
    simp only [h.shown_vacate hcurrent]
    rfl
  own j own' hj :=
    (h.own j own' (current_of_vacate hj)).imp (FreshSink.issued_remove own.1 own.2)
      fun hlatest ↦ hlatest
  apart j k own' own'' hjk hj hk :=
    h.apart j k own' own'' hjk (current_of_vacate hj) (current_of_vacate hk)
  handed id hid :=
    (h.handed id hid).imp (FreshSink.issued_remove own.1 own.2)
      fun hother j own' hj ↦ hother j own' (current_of_vacate hj)
  direct := h.direct

/-- A slot that shows nothing raises a note of its own. -/
theorem fill (h : x.Sound standing) {i : ι} (hcurrent : (x.slots i).current = none) {n : Note}
    (hn : NoteKeeper.Lasts ν n) :
    (x.fill i n).Sound (standing ++ [((NoteSink.add n x.notes).1, n)]) where
  keeps := NoteKeeper.keeps_add h.keeps hn
  standing := by
    have hshown : ∀ j, ((x.fill i n).shown j : Multiset (NoteId × Note)) =
        x.shown j + if j = i then {((NoteSink.add n x.notes).1, n)} else 0 := by
      intro j
      rw [shown_fill]
      split
      · next hji =>
        rw [hji, shown_of_current_none hcurrent]
        rfl
      · exact (add_zero _).symm
    rw [Finset.sum_congr rfl fun j _ ↦ hshown j, Finset.sum_add_distrib, Finset.sum_ite_eq',
      if_pos (Finset.mem_univ i), ← add_assoc, ← Multiset.coe_add, h.standing]
    rfl
  own := by
    intro j own hj
    rcases current_of_fill hj with ⟨rfl, rfl⟩ | ⟨hji, hj⟩
    · refine ⟨FreshSink.issued_new n x.notes, n, ?_, rfl⟩
      rw [latest_fill, Function.update_self]
    · refine (h.own j own hj).imp (FreshSink.issued_add n) ?_
      rw [latest_fill, Function.update_of_ne hji]
      exact fun hlatest ↦ hlatest
  apart := by
    intro j k own own' hjk hj hk heq
    rcases current_of_fill hj with ⟨rfl, rfl⟩ | ⟨-, hj⟩
    · rcases current_of_fill hk with ⟨rfl, -⟩ | ⟨-, hk⟩
      · exact hjk rfl
      · exact FreshSink.not_issued n x.notes (heq ▸ (h.own k own' hk).1)
    · rcases current_of_fill hk with ⟨-, rfl⟩ | ⟨-, hk⟩
      · exact FreshSink.not_issued n x.notes (heq ▸ (h.own j own hj).1)
      · exact h.apart j k own own' hjk hj hk heq
  handed := by
    intro id hid
    refine ⟨FreshSink.issued_add n (h.handed id hid).1, ?_⟩
    intro j own hj heq
    rcases current_of_fill hj with ⟨-, rfl⟩ | ⟨-, hj⟩
    · exact FreshSink.not_issued n x.notes (heq ▸ (h.handed id hid).1)
    · exact (h.handed id hid).2 j own hj heq
  direct := h.direct

private theorem clear (h : x.Sound standing) (i : ι) :
    ∃ standing', (x.ask i .clear).Sound standing' :=
  clear_cases (P := fun y ↦ ∃ standing', y.Sound standing') ⟨standing, h⟩
    fun _ hcurrent ↦ ⟨_, h.vacate hcurrent⟩

/-- An operation of a slot only changes what this slot shows. -/
theorem ask (h : x.Sound standing) (i : ι) {op : SlotOp}
    (hop : ∀ n ∈ op.note?, NoteKeeper.Lasts ν n) : ∃ standing', (x.ask i op).Sound standing' := by
  refine ask_cases (P := fun y ↦ ∃ standing', y.Sound standing') ⟨standing, h⟩ (h.clear i) ?_
  intro n hn
  obtain ⟨standing', hclear⟩ := h.clear i
  exact ⟨_, hclear.fill (x.current_ask_clear i) (hop n hn)⟩

end Sound

end Sound

/-! ### Slots with a logbook -/

namespace Sound

variable {ι ν : Type} [NoteSink ν] [FreshSink ν] [Fintype ι] [DecidableEq ι]
variable {x : SharedSlots ι (Logbook ν)} {standing : List (NoteId × Note)}

/-- A slot takes down a note that stands, when nobody else has taken it down. -/
theorem faithful_clear (h : x.Sound standing) (hx : x.Undisturbed) (hbook : x.notes.Faithful)
    (i : ι) : (x.ask i .clear).notes.Faithful := by
  refine clear_cases (P := fun y : SharedSlots ι (Logbook ν) ↦ y.notes.Faithful) hbook ?_
  intro own hcurrent
  obtain ⟨-, n, hlatest, hcontext⟩ := h.own i own hcurrent
  have hraised : (x.slots i).isRaised = true := congrArg Option.isSome hcurrent
  have hstands : (own.1, n) ∈ x.notes.standing := by
    rw [Logbook.keeps_iff.mp h.keeps]
    exact h.mem_standing.mpr (.inr ⟨i, mem_shown.mpr ⟨hlatest, hraised, hx i hraised⟩⟩)
  have hremoved := hbook.remove hstands
  rw [hcontext] at hremoved
  exact hremoved

/-- Undisturbed slots take down nothing but notes that stand. -/
theorem faithful_ask (h : x.Sound standing) (hx : x.Undisturbed) (hbook : x.notes.Faithful)
    (i : ι) (op : SlotOp) : (x.ask i op).notes.Faithful :=
  ask_cases (P := fun y : SharedSlots ι (Logbook ν) ↦ y.notes.Faithful) hbook
    (h.faithful_clear hx hbook i) fun n _ ↦ (h.faithful_clear hx hbook i).add n

end Sound

end SeriesAcl.SharedSlots
