import Mathlib.Data.List.Infix
import SeriesAcl.Text.Search

/-!
# Where a mark stands in a text

A search cuts a text at the first place where the mark stands (`cut?_eq_none_iff`,
`length_le_of_cut?`). The marks of this library do not overlap with themselves: their first
character stands in them once (`Solitary`). So a text with a mark behind it is cut off where it ends
when it has no such mark in it (`cut?_append`), and a mark stands in a text that is put together
around another mark exactly when it stands in one of the two parts (`Apart.isInfix_iff`).
-/

namespace SeriesAcl.Text

variable {mark s front rest : List Char}

/-! ### The first place -/

private theorem after?_eq_none_iff : after? mark s = none ↔ ¬mark <+: s := by
  rw [← not_iff_not, not_not, ← ne_eq, Option.ne_none_iff_exists']
  constructor
  · rintro ⟨rest, h⟩
    exact ⟨rest, (after?_eq_some_iff.mp h).symm⟩
  · rintro ⟨rest, h⟩
    exact ⟨rest, after?_eq_some_iff.mpr h.symm⟩

/-- A text is not cut exactly when the mark stands nowhere in it. -/
theorem cut?_eq_none_iff : cut? mark s = none ↔ ¬mark <:+: s := by
  induction s with
  | nil =>
    rw [cut?, Option.map_eq_none_iff, after?_eq_none_iff, List.infix_nil, List.prefix_nil]
  | cons c cs ih =>
    rw [List.infix_cons_iff, not_or, ← ih, ← after?_eq_none_iff, cut?]
    cases after? mark (c :: cs) with
    | none => simp
    | some rest => simp

/-- No other place of the mark lies before the one where the text is cut. -/
theorem length_le_of_cut? {other behind : List Char} (h : cut? mark s = some (front, rest))
    (hs : s = other ++ mark ++ behind) : front.length ≤ other.length := by
  induction s generalizing front other with
  | nil =>
    simp only [cut?, Option.map_eq_some_iff, Prod.mk.injEq] at h
    obtain ⟨_, -, rfl, -⟩ := h
    exact Nat.zero_le _
  | cons c cs ih =>
    rw [cut?] at h
    cases hafter : after? mark (c :: cs) with
    | some r =>
      rw [hafter] at h
      cases h
      exact Nat.zero_le _
    | none =>
      rw [hafter] at h
      obtain ⟨⟨b, r⟩, hb, heq⟩ := Option.map_eq_some_iff.mp h
      cases heq
      cases other with
      | nil => exact absurd ⟨behind, hs.symm⟩ (after?_eq_none_iff.mp hafter)
      | cons d ds =>
        have htail : cs = ds ++ mark ++ behind := (List.cons.inj hs).2
        exact Nat.succ_le_succ (ih hb htail)

/-! ### Marks that do not overlap -/

/-- A mark whose first character is `c`, and has this character nowhere else. -/
def Solitary (c : Char) (mark : List Char) : Prop :=
  ∃ tail, mark = c :: tail ∧ c ∉ tail

/-- A text without a character does not reach over the first place of the character. -/
theorem isPrefix_append_cons_iff {c : Char} {part : List Char} (hc : c ∉ part) :
    part <+: s ++ c :: rest ↔ part <+: s := by
  induction part generalizing s with
  | nil => simp
  | cons x xs ih =>
    obtain ⟨hx, hxs⟩ := List.ne_and_not_mem_of_not_mem_cons hc
    cases s with
    | nil => simp [List.cons_prefix_cons, hx.symm]
    | cons d ds =>
      rw [List.cons_append, List.cons_prefix_cons, List.cons_prefix_cons, ih hxs]

/-- A mark that begins in a text in front of another first character of it ends there as well. -/
theorem isPrefix_cons_append_cons_iff {c d : Char} {tail : List Char} (hc : c ∉ tail) :
    c :: tail <+: d :: (s ++ c :: rest) ↔ c :: tail <+: d :: s := by
  rw [List.cons_prefix_cons, List.cons_prefix_cons, isPrefix_append_cons_iff hc]

/-- A mark stands in front of a first character of it, or from there on. -/
theorem isInfix_append_cons_iff {c : Char} {tail : List Char} (hc : c ∉ tail) :
    c :: tail <:+: s ++ c :: rest ↔ c :: tail <:+: s ∨ c :: tail <:+: c :: rest := by
  induction s with
  | nil => simp
  | cons d ds ih =>
    rw [List.cons_append, List.infix_cons_iff, ih, isPrefix_cons_append_cons_iff hc, ← or_assoc,
      ← List.infix_cons_iff]

/-- A mark does not begin in a part without its first character. -/
theorem isInfix_append_iff_of_not_mem {c : Char} {tail part : List Char} (hc : c ∉ part) :
    c :: tail <:+: part ++ rest ↔ c :: tail <:+: rest := by
  induction part with
  | nil => rfl
  | cons x xs ih =>
    obtain ⟨hx, hxs⟩ := List.ne_and_not_mem_of_not_mem_cons hc
    rw [List.cons_append, List.infix_cons_iff, ih hxs, List.cons_prefix_cons]
    exact or_iff_right fun h ↦ hx h.1

/-- Two marks that begin alike and of which neither begins with the other. -/
structure Apart (c : Char) (mark other : List Char) : Prop where
  solitary : Solitary c mark
  solitary' : Solitary c other
  not_prefix : ¬mark <+: other
  not_prefix' : ¬other <+: mark

/-- A mark stands in a text around another mark exactly when it stands in one of the two parts. -/
theorem Apart.isInfix_iff {c : Char} {other : List Char} (h : Apart c mark other) :
    mark <:+: s ++ other ++ rest ↔ mark <:+: s ∨ mark <:+: rest := by
  obtain ⟨⟨tail, rfl, hc⟩, ⟨tail', rfl, hc'⟩, hprefix, hprefix'⟩ := h
  have hnot : ¬c :: tail <+: c :: (tail' ++ rest) := by
    intro hmark
    have hother : c :: tail' <+: c :: (tail' ++ rest) := List.prefix_append (c :: tail') rest
    rcases List.prefix_or_prefix_of_prefix hmark hother with hbegins | hbegins
    · exact hprefix hbegins
    · exact hprefix' hbegins
  rw [List.append_assoc, List.cons_append, isInfix_append_cons_iff hc, List.infix_cons_iff (a := c),
    isInfix_append_iff_of_not_mem hc']
  exact or_congr_right (or_iff_right hnot)

/-- A text without a mark is cut off where it ends in front of the mark. -/
theorem cut?_append {c : Char} (hm : Solitary c mark) (h : ¬mark <:+: s) :
    cut? mark (s ++ mark ++ rest) = some (s, rest) := by
  obtain ⟨tail, rfl, hc⟩ := hm
  induction s with
  | nil =>
    have hafter : after? (c :: tail) (c :: tail ++ rest) = some rest :=
      after?_eq_some_iff.mpr rfl
    rw [List.nil_append, List.cons_append, cut?, ← List.cons_append, hafter]
  | cons d ds ih =>
    rw [List.infix_cons_iff, not_or] at h
    have hafter : after? (c :: tail) (d :: (ds ++ c :: tail ++ rest)) = none := by
      rw [after?_eq_none_iff, List.append_assoc, List.cons_append,
        isPrefix_cons_append_cons_iff hc]
      exact h.1
    rw [List.cons_append, List.cons_append, cut?, hafter, ih h.2]
    rfl

/-! ### Pieces -/

/-- A text without the separator is the first piece of one that goes on with the separator. -/
theorem splitAtChar_append {sep : Char} {piece : List Char} (h : sep ∉ piece) (rest : List Char) :
    splitAtChar sep (piece ++ sep :: rest) = piece :: splitAtChar sep rest := by
  induction piece with
  | nil => rw [List.nil_append, splitAtChar, if_pos rfl]
  | cons c cs ih =>
    obtain ⟨hc, hcs⟩ := List.ne_and_not_mem_of_not_mem_cons h
    rw [List.cons_append, splitAtChar, if_neg hc.symm, ih hcs]

/-- A text without the separator is its only piece. -/
theorem splitAtChar_of_not_mem {sep : Char} {piece : List Char} (h : sep ∉ piece) :
    splitAtChar sep piece = [piece] := by
  induction piece with
  | nil => rfl
  | cons c cs ih =>
    obtain ⟨hc, hcs⟩ := List.ne_and_not_mem_of_not_mem_cons h
    rw [splitAtChar, if_neg hc.symm, ih hcs]

/-! ### Texts -/

/-- A mark stands somewhere in a text. -/
def Occurs (mark s : String) : Prop :=
  mark.toList <:+: s.toList

/-- Decided on the lists of characters. -/
instance (mark s : String) : Decidable (Occurs mark s) :=
  inferInstanceAs (Decidable (mark.toList <:+: s.toList))

private theorem contains_iff {mark s : String} : contains mark s = true ↔ Occurs mark s := by
  rw [contains, Option.isSome_iff_ne_none, ne_eq, cut?_eq_none_iff, not_not, Occurs]

/-- A text starts with a mark if its characters start with those of the mark. -/
theorem startsWith_iff {mark s : String} :
    startsWith mark s = true ↔ mark.toList <+: s.toList := by
  rw [startsWith, Option.isSome_iff_ne_none, ne_eq, after?_eq_none_iff, not_not]

/-- Containment is occurrence. -/
theorem contains_eq_decide (mark s : String) : contains mark s = decide (Occurs mark s) := by
  rw [Bool.eq_iff_iff, contains_iff, decide_eq_true_iff]

section Texts

variable {mark s rest : String}

private theorem Occurs.append_right (h : Occurs mark s) (rest : String) :
    Occurs mark (s ++ rest) := by
  unfold Occurs
  rw [String.toList_append]
  exact List.infix_append_of_infix_left h

/-- A text that shares nothing with a mark does not bring it into its neighbours. -/
theorem Apart.occurs_iff {c : Char} {other : String} (h : Apart c mark.toList other.toList) :
    Occurs mark (s ++ other ++ rest) ↔ Occurs mark s ∨ Occurs mark rest := by
  unfold Occurs
  rw [String.toList_append, String.toList_append, h.isInfix_iff]

/-- The parts around the first mark make up the text. -/
theorem eq_of_splitFirst? {head tail : String} (h : splitFirst? mark s = some (head, tail)) :
    s = head ++ mark ++ tail := by
  obtain ⟨⟨before, behind⟩, hcut, heq⟩ := Option.map_eq_some_iff.mp h
  cases heq
  have hs := eq_of_cut? hcut
  rw [← String.toList_inj, hs]
  simp

/-- A text is split at the first mark, which is cut out. -/
theorem splitFirst?_append {c : Char} (hm : Solitary c mark.toList) (h : ¬Occurs mark s) :
    splitFirst? mark (s ++ mark ++ rest) = some (s, rest) := by
  rw [splitFirst?, String.toList_append, String.toList_append, cut?_append hm h]
  simp

/-- A mark further in front is where the text is split. -/
theorem length_lt_of_splitFirst? {head tail : String} (hm : mark ≠ "") (hs : Occurs mark s)
    (h : splitFirst? mark (s ++ rest) = some (head, tail)) : head.length < s.length := by
  obtain ⟨⟨before, behind⟩, hcut, heq⟩ := Option.map_eq_some_iff.mp h
  cases heq
  obtain ⟨front, back, hparts⟩ := hs
  rw [String.toList_append, ← hparts, List.append_assoc (front ++ mark.toList)] at hcut
  have hle := length_le_of_cut? hcut rfl
  have hmark : 0 < mark.toList.length := by
    rw [List.length_pos_iff, ne_eq, String.toList_eq_nil_iff]
    exact hm
  have hlength := congrArg List.length hparts
  simp only [List.length_append, String.length_toList, String.length_ofList] at *
  omega

private theorem before_eq (mark s : String) :
    before mark s = ((splitFirst? mark s).map Prod.fst).getD s := by
  unfold before splitFirst?
  cases cut? mark.toList s.toList <;> rfl

private theorem splitFirst?_eq_none_iff : splitFirst? mark s = none ↔ ¬Occurs mark s := by
  rw [splitFirst?, Option.map_eq_none_iff, cut?_eq_none_iff, Occurs]

/-- Without the mark all of a text stands before it. -/
theorem before_of_not_occurs (h : ¬Occurs mark s) : before mark s = s := by
  rw [before_eq, splitFirst?_eq_none_iff.mpr h]
  rfl

/-- What stands before the first mark. -/
theorem before_append {c : Char} (hm : Solitary c mark.toList) (h : ¬Occurs mark s) :
    before mark (s ++ mark ++ rest) = s := by
  rw [before_eq, splitFirst?_append hm h]
  rfl

/-- A mark in a text lies in front of all that is behind the text. -/
theorem length_before_lt (hm : mark ≠ "") (h : Occurs mark s) (rest : String) :
    (before mark (s ++ rest)).length < s.length := by
  cases hsplit : splitFirst? mark (s ++ rest) with
  | none => exact absurd (h.append_right rest) (splitFirst?_eq_none_iff.mp hsplit)
  | some parts =>
    rw [before_eq, hsplit]
    exact length_lt_of_splitFirst? hm h hsplit

/-- What is behind a mark does not come before the first one. -/
theorem length_before_append_le (mark s rest : String) :
    (before mark (s ++ mark ++ rest)).length ≤ s.length := by
  have hmark : Occurs mark (s ++ mark ++ rest) := by
    unfold Occurs
    rw [String.toList_append, String.toList_append]
    exact ⟨s.toList, rest.toList, rfl⟩
  cases hcut : cut? mark.toList (s ++ mark ++ rest).toList with
  | none => exact absurd hmark (cut?_eq_none_iff.mp hcut)
  | some parts =>
    have hparts : (s ++ mark ++ rest).toList = s.toList ++ mark.toList ++ rest.toList := by
      rw [String.toList_append, String.toList_append]
    have hle := length_le_of_cut? hcut hparts
    rw [String.length_toList] at hle
    rw [before, hcut]
    exact String.length_ofList.trans_le hle

/-- What stands before a mark is not longer than the text. -/
theorem length_before_le (mark s : String) : (before mark s).length ≤ s.length := by
  cases hsplit : splitFirst? mark s with
  | none => rw [before_eq, hsplit]; exact Nat.le_refl _
  | some parts =>
    rw [before_eq, hsplit, eq_of_splitFirst? hsplit, String.length_append, String.length_append,
      Nat.add_assoc]
    exact Nat.le_add_right _ _

/-- What follows a text in one that is longer begins as the longer one goes on there. -/
theorem head?_eq_getElem? {t v : String} (hm : mark ≠ "") (h : t ++ v = s ++ mark ++ rest)
    (hlt : s.length < t.length) : mark.toList.head? = t.toList[s.length]? := by
  have hmark : 0 < mark.toList.length :=
    List.length_pos_iff.mpr (String.toList_eq_nil_iff.not.mpr hm)
  have hchars := congrArg (fun text : String ↦ text.toList[s.length]?) h
  simp only [String.toList_append, List.append_assoc, ← String.length_toList] at hchars hlt ⊢
  rw [List.getElem?_append_left hlt, List.getElem?_append_right (Nat.le_refl _), Nat.sub_self,
    List.getElem?_append_left hmark, ← List.head?_eq_getElem?] at hchars
  exact hchars.symm

end Texts

end SeriesAcl.Text
