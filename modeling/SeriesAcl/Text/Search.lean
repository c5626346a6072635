/-!
# Searching text

Cutting a text at the first place where a mark occurs. Everything that looks for one text inside
another (split at a mark, replace the first mark, containment) is stated through `cut?`, on lists
of characters so that laws can be read off the list.
-/

namespace SeriesAcl.Text

/-- The part of `s` behind `mark`, when `s` starts with it. -/
def after? (mark : List Char) (s : List Char) : Option (List Char) :=
  match mark, s with
  | [], s => some s
  | _ :: _, [] => none
  | m :: ms, c :: cs => if m = c then after? ms cs else none

/-- The parts of `s` before and behind the first occurrence of `mark`. -/
def cut? (mark : List Char) : List Char → Option (List Char × List Char)
  | [] => (after? mark []).map fun rest ↦ ([], rest)
  | c :: cs =>
    match after? mark (c :: cs) with
    | some rest => some ([], rest)
    | none => (cut? mark cs).map fun parts ↦ (c :: parts.1, parts.2)

/-- A text starts with `mark` and goes on with `rest` exactly when it is their concatenation. -/
theorem after?_eq_some_iff {mark s rest : List Char} :
    after? mark s = some rest ↔ s = mark ++ rest := by
  induction mark generalizing s with
  | nil => simp [after?, eq_comm]
  | cons m ms ih =>
    cases s with
    | nil => simp [after?]
    | cons c cs =>
      by_cases h : m = c
      · simp [after?, h, ih]
      · simp [after?, h, Ne.symm h]

/-- Cutting loses nothing: the two parts and the mark between them are the text. -/
theorem eq_of_cut? {mark s before rest : List Char} (h : cut? mark s = some (before, rest)) :
    s = before ++ mark ++ rest := by
  induction s generalizing before with
  | nil =>
    simp only [cut?, Option.map_eq_some_iff, Prod.mk.injEq] at h
    obtain ⟨r, hr, rfl, rfl⟩ := h
    simpa using after?_eq_some_iff.1 hr
  | cons c cs ih =>
    simp only [cut?] at h
    split at h
    · next r hr =>
      simp only [Option.some.injEq, Prod.mk.injEq] at h
      obtain ⟨rfl, rfl⟩ := h
      simpa using after?_eq_some_iff.1 hr
    · next hr =>
      simp only [Option.map_eq_some_iff, Prod.mk.injEq] at h
      obtain ⟨⟨b, r⟩, hb, rfl, rfl⟩ := h
      simpa using ih hb

/-- Whether `mark` occurs in `s`. -/
def contains (mark s : String) : Bool :=
  (cut? mark.toList s.toList).isSome

/-- Whether `s` starts with `mark`. -/
def startsWith (mark s : String) : Bool :=
  (after? mark.toList s.toList).isSome

/-- The part of `s` behind `mark`, when `s` starts with it. -/
def behind? (mark s : String) : Option String :=
  (after? mark.toList s.toList).map String.ofList

/-- The part of `s` before the first `mark`, or all of `s` when there is none. -/
def before (mark s : String) : String :=
  match cut? mark.toList s.toList with
  | some parts => String.ofList parts.1
  | none => s

/-- The parts of `s` around the first `mark`. -/
def splitFirst? (mark s : String) : Option (String × String) :=
  (cut? mark.toList s.toList).map fun parts ↦ (String.ofList parts.1, String.ofList parts.2)

/-- The text `s` with the first `mark` replaced by `replacement`. -/
def replaceFirst (mark replacement s : String) : String :=
  match splitFirst? mark s with
  | some (head, tail) => head ++ replacement ++ tail
  | none => s

/-- The pieces of a text between the separators `sep`, of which there is always at least one. -/
def splitAtChar (sep : Char) : List Char → List (List Char)
  | [] => [[]]
  | c :: cs =>
    if c = sep then [] :: splitAtChar sep cs
    else
      match splitAtChar sep cs with
      | [] => [[c]]
      | piece :: pieces => (c :: piece) :: pieces

end SeriesAcl.Text
