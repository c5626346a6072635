import SeriesAcl.Catalog.FileName
import SeriesAcl.Proofs.Text.Ascii

/-!
# What is left of a title in a file name

A character of a title becomes one character of the file name: a letter from A to Z in lower case, a
digit as it is, and an underscore for anything else. Two characters do not follow, since they equal
a letter when letter case is set aside: the long s stays, and the Kelvin sign becomes a k. So the
rule holds for a title exactly when it has neither of them (`name_eq_iff`).
-/

namespace SeriesAcl.ExportFile

/-- The lower case of a letter or digit, and an underscore for any other character. -/
def plain (c : Char) : Char :=
  if c.isAlphanum then c.toLower else '_'

/-- A character equals a letter when letter case is set aside, and is none: the long s and the
Kelvin sign. -/
def IsFolded (c : Char) : Prop :=
  c = 'ſ' ∨ c = '\u212A'

/-- Decided by comparing with the two characters. -/
instance : DecidablePred IsFolded := fun c ↦
  inferInstanceAs (Decidable (c = 'ſ' ∨ c = '\u212A'))

/-- What becomes of a character. -/
def reduced (c : Char) : Char :=
  if c = 'ſ' then 'ſ' else if c = '\u212A' then 'k' else plain c

/-- A character is a digit, a lower-case letter or an underscore. -/
def IsPlain (c : Char) : Prop :=
  c.isDigit = true ∨ c.isLower = true ∨ c = '_'

/-- Decided by the three tests. -/
instance : DecidablePred IsPlain := fun c ↦
  inferInstanceAs (Decidable (c.isDigit = true ∨ c.isLower = true ∨ c = '_'))

/-- The file name with a title in it. -/
def nameWith (series title : String) : String :=
  "export_series_" ++ series ++ "_" ++ title ++ ".csv"

private theorem nameWith_inj {series title title' : String} :
    nameWith series title = nameWith series title' ↔ title = title' := by
  unfold nameWith
  rw [String.append_left_inj, String.append_right_inj]

/-! ### Single characters -/

private theorem isFolded_iff {c : Char} : IsFolded c ↔ c.toNat = 0x17F ∨ c.toNat = 0x212A := by
  rw [IsFolded, ← Char.toNat_inj, ← Char.toNat_inj]
  rfl

private theorem isKept_iff {c : Char} : isKept c = true ↔ c.isAlphanum = true ∨ IsFolded c := by
  rw [Text.isAlphanum_iff, isFolded_iff]
  simp only [isKept, Bool.or_eq_true, Bool.and_eq_true, decide_eq_true_eq, beq_iff_eq,
    Char.le_def, UInt32.le_iff_toNat_le]
  show ((((48 ≤ c.toNat ∧ c.toNat ≤ 57) ∨ (97 ≤ c.toNat ∧ c.toNat ≤ 122)) ∨
    (65 ≤ c.toNat ∧ c.toNat ≤ 90)) ∨ c.toNat = 0x17F) ∨ c.toNat = 0x212A ↔ _
  omega

/-- What a letter or digit becomes is plain, and so is an underscore. -/
theorem isPlain_plain (c : Char) : IsPlain (plain c) := by
  unfold plain
  split
  · next hc =>
    have hlower : c.isAlphanum = true → IsPlain c.toLower :=
      Text.of_forall_ascii (P := fun c ↦ c.isAlphanum = true → IsPlain c.toLower)
        (by decide) (Text.toNat_lt_of_isAlphanum hc)
    exact hlower hc
  · exact .inr (.inr rfl)

private theorem reduced_of_not_isFolded {c : Char} (h : ¬IsFolded c) : reduced c = plain c := by
  rw [reduced, if_neg fun hs ↦ h (.inl hs), if_neg fun hk ↦ h (.inr hk)]

private theorem reduced_eq_plain_iff {c : Char} : reduced c = plain c ↔ ¬IsFolded c := by
  by_cases h : IsFolded c
  · refine iff_of_false ?_ (not_not_intro h)
    rcases h with rfl | rfl <;> decide
  · exact iff_of_true (reduced_of_not_isFolded h) h

private theorem isPlain_reduced_iff {c : Char} : IsPlain (reduced c) ↔ c ≠ 'ſ' := by
  by_cases h : IsFolded c
  · rcases h with rfl | rfl <;> decide
  · rw [reduced_of_not_isFolded h]
    exact iff_of_true (isPlain_plain c) fun hs ↦ h (.inl hs)

/-- A character is kept or becomes an underscore. -/
def kept (c : Char) : Char :=
  if isKept c then c else '_'

private theorem kept_ne_sigma (c : Char) : kept c ≠ 'Σ' := by
  unfold kept
  split
  · next hc =>
    rintro rfl
    revert hc
    decide
  · decide

/-- The lower case of what is kept of a character. -/
theorem lowerChar_kept (c : Char) : Text.lowerChar (kept c) = [reduced c] := by
  by_cases h : IsFolded c
  · rcases h with rfl | rfl <;> decide +kernel
  rw [reduced_of_not_isFolded h]
  by_cases hc : c.isAlphanum = true
  · rw [kept, if_pos (isKept_iff.mpr (.inl hc)), Text.lowerChar,
      if_pos (Text.toNat_lt_of_isAlphanum hc), plain, if_pos hc]
  · have hkept : ¬isKept c = true := mt isKept_iff.mp (not_or.mpr ⟨hc, h⟩)
    rw [kept, if_neg hkept, plain, if_neg hc]
    decide

/-! ### Titles -/

private theorem lowerFrom_kept (before title : List Char) :
    Text.lowerFrom before (title.map kept) = title.map reduced := by
  -- No sigma is kept, so the lower case of a character does not depend on those around it.
  induction title generalizing before with
  | nil => rfl
  | cons c cs ih =>
    rw [List.map_cons, Text.lowerFrom, if_neg (kept_ne_sigma c), lowerChar_kept, ih]
    rfl

private theorem sanitize_eq (title : String) :
    sanitize title = String.ofList (title.toList.map reduced) := by
  show Text.lower (String.ofList (title.toList.map kept)) = _
  rw [Text.lower, String.toList_ofList, lowerFrom_kept]

/-- The file name has a character for each one of the title, in lower case when it is a letter or
digit and an underscore otherwise, but for the two characters that letter case ties to a letter. So
it is made by the rule exactly when the title has neither of them, and only the long s brings
anything else than digits, lower-case letters and underscores into it. -/
theorem name_eq_iff (series title : String) :
    name series title = nameWith series (String.ofList (title.toList.map reduced)) ∧
      (name series title = nameWith series (String.ofList (title.toList.map plain)) ↔
        ∀ c ∈ title.toList, ¬IsFolded c) ∧
      ((∀ c ∈ title.toList.map reduced, IsPlain c) ↔ 'ſ' ∉ title.toList) := by
  have hname : name series title =
      nameWith series (String.ofList (title.toList.map reduced)) := by
    rw [← sanitize_eq]
    rfl
  refine ⟨hname, ?_, ?_⟩
  · rw [hname, nameWith_inj, String.ofList_inj, List.map_inj_left]
    exact forall₂_congr fun c _ ↦ reduced_eq_plain_iff
  · rw [List.forall_mem_map]
    simp only [isPlain_reduced_iff]
    exact ⟨fun h hs ↦ h 'ſ' hs rfl, fun h c hc heq ↦ h (heq ▸ hc)⟩

/-- Neither of the two characters becomes an underscore. -/
theorem not_name_foldedTitle :
    ¬∀ series title : String,
      name series title = nameWith series (String.ofList (title.toList.map plain)) := by
  intro h
  have hname : name "s1" "ſ\u212A" = "export_series_s1_ſk.csv" := by
    decide +kernel
  have hrule : nameWith "s1" (String.ofList ("ſ\u212A".toList.map plain)) =
      "export_series_s1___.csv" := by
    decide +kernel
  exact absurd (hname.symm.trans ((h "s1" "ſ\u212A").trans hrule)) (by decide)

end SeriesAcl.ExportFile
