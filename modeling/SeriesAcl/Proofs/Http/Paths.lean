import SeriesAcl.Http.Url
import SeriesAcl.Proofs.Text.Ascii
import SeriesAcl.Proofs.Text.Occurrence

/-!
# Paths in addresses

What an address makes of a path that is put together from segments. Segments with no slash and no
character to be escaped are taken apart again as they were (`pieces_segmentsText`), and those that
are no dot segments besides stay in the address (`Trail.follow_cons`). A name that is written as one
segment is such a segment unless it is a dot or two dots (`settled_segment`): an escaped dot would
count as a dot, but no name is written with one (`eq_of_dots_segment`).
-/

namespace SeriesAcl

/-! ### Dots that are escaped -/

namespace Percent

variable {piece : List Char} {name other : String} {n : Nat}

/-- Escaped dots spell out the same bytes as dots. -/
theorem bytes_of_dots (h : Url.dots piece = List.replicate n '.') :
    bytes piece = List.replicate n 46 := by
  induction n generalizing piece with
  | zero =>
    rw [Url.dots.eq_def] at h
    split at h
    · cases h
    · cases h
    · cases h
    · rfl
  | succ n ih =>
    rw [Url.dots.eq_def, List.replicate_succ] at h
    split at h
    · rw [bytes, ih (List.cons.inj h).2]
      rfl
    · rw [bytes, ih (List.cons.inj h).2]
      rfl
    · obtain ⟨rfl, hrest⟩ := List.cons.inj h
      rw [bytes_cons_of_ne (by decide), ih hrest]
      rfl
    · cases h

/-- A text of characters that may stand is encoded as it is. -/
theorem encode_eq_self {keeps : Char → Bool} {s : List Char} (h : ∀ c ∈ s, keeps c = true) :
    encode keeps s = s := by
  induction s with
  | nil => rfl
  | cons c rest ih =>
    obtain ⟨hc, hrest⟩ := List.forall_mem_cons.mp h
    rw [encode, List.flatMap_cons, ← encode, ih hrest, encodeChar, if_pos hc]
    rfl

private theorem dots_replicate (n : Nat) :
    Url.dots (List.replicate n '.') = List.replicate n '.' := by
  induction n with
  | zero => rfl
  | succ n ih => rw [List.replicate_succ, Url.dots.eq_3 _ _ (by simp) (by simp), ih]

/-- Only dots are written as a segment of dots. -/
theorem eq_of_dots_segment (h : Url.dots (segment name).toList = List.replicate n '.') :
    name = String.ofList (List.replicate n '.') := by
  have hname := decode?_segment name
  have hdots := decode?_segment (String.ofList (List.replicate n '.'))
  have hkept : ∀ c ∈ List.replicate n '.', segmentKeeps c = true := fun c hc ↦ by
    rw [List.eq_of_mem_replicate hc]
    rfl
  rw [segment, String.toList_ofList, String.toList_ofList, encode_eq_self hkept] at hdots
  rw [decode?, bytes_of_dots h] at hname
  rw [decode?, bytes_of_dots (dots_replicate n)] at hdots
  exact Option.some.inj (hname.symm.trans hdots)

/-- A segment is written for one name only. -/
theorem segment_inj (h : segment name = segment other) : name = other := by
  have hname := decode?_segment name
  rw [h, decode?_segment] at hname
  exact (Option.some.inj hname).symm

end Percent

namespace Url

variable {special : Bool} {s : String} {items others : List String}

/-! ### Segments that stand as they are -/

/-- A segment without slashes and without characters that are escaped in a path. -/
def IsWhole (s : String) : Prop :=
  ∀ c ∈ s.toList, pathKeeps c = true ∧ c ≠ '/' ∧ c ≠ '\\'

/-- A segment that stands in an address as it is: it is whole, and no dot segment. -/
structure Settled (s : String) : Prop where
  isWhole : IsWhole s
  notSingle : isSingleDot s.toList = false
  notDouble : isDoubleDot s.toList = false

/-- Decided on the characters of the segment. The instance is written out, since the search may find
one that runs through all characters there are. -/
instance (s : String) : Decidable (IsWhole s) :=
  List.decidableBAll _ s.toList

private theorem toNat_lt_of_segmentKeeps {c : Char} (h : Percent.segmentKeeps c = true) :
    c.toNat < 0x80 := by
  have below : ∀ {d : Char}, c ≤ d → d.toNat < 0x80 → c.toNat < 0x80 := fun hle hd ↦
    Nat.lt_of_le_of_lt (UInt32.le_iff_toNat_le.mp hle) hd
  simp only [Percent.segmentKeeps, Percent.isAsciiAlphanumeric, Bool.or_eq_true, Bool.and_eq_true,
    decide_eq_true_eq, beq_iff_eq] at h
  rcases h with (((((⟨-, h⟩ | ⟨-, h⟩) | ⟨-, h⟩) | rfl) | rfl) | rfl) | rfl
  all_goals first | exact below h (by decide) | decide

/-- Segments are written with characters that a path keeps. -/
theorem isWhole_segment (name : String) : IsWhole (Percent.segment name) := by
  have hdigit : ∀ n < 16, pathKeeps (Percent.hexDigit n) = true ∧ Percent.hexDigit n ≠ '/' ∧
      Percent.hexDigit n ≠ '\\' := by decide
  have hkept : ∀ n < 0x80, Percent.segmentKeeps (Char.ofNat n) = true →
      pathKeeps (Char.ofNat n) = true ∧ Char.ofNat n ≠ '/' ∧ Char.ofNat n ≠ '\\' := by decide
  intro c hc
  rw [Percent.segment, String.toList_ofList, Percent.encode, List.mem_flatMap] at hc
  obtain ⟨d, -, hc⟩ := hc
  unfold Percent.encodeChar at hc
  split at hc
  · next hd =>
    rw [List.mem_singleton.mp hc]
    exact Text.of_forall_ascii (P := fun c ↦ Percent.segmentKeeps c = true →
      pathKeeps c = true ∧ c ≠ '/' ∧ c ≠ '\\') hkept (toNat_lt_of_segmentKeeps hd) hd
  · obtain ⟨b, -, hc⟩ := List.mem_flatMap.mp hc
    have hb : b.toNat < 256 := b.toNat_lt
    simp only [Percent.escape, List.mem_cons, List.not_mem_nil, or_false] at hc
    rcases hc with rfl | rfl | rfl
    · decide
    · exact hdigit _ (by omega)
    · exact hdigit _ (by omega)

/-- Characters that a path keeps are not passed over. -/
theorem joined_eq_self (h : IsWhole s) : joined s.toList = s.toList := by
  refine List.filter_eq_self.mpr fun c hc ↦ ?_
  have hkeeps := (h c hc).1
  cases hblank : isInnerBlank c with
  | false => rfl
  | true =>
    simp only [isInnerBlank, Bool.or_eq_true, beq_iff_eq] at hblank
    rcases hblank with (rfl | rfl) | rfl <;> exact absurd hkeeps (by decide)

/-- A name other than a dot and two dots is settled as a segment. -/
theorem settled_segment {name : String} (hsingle : name ≠ ".") (hdouble : name ≠ "..") :
    Settled (Percent.segment name) where
  isWhole := isWhole_segment name
  notSingle := beq_eq_false_iff_ne.mpr fun h ↦ hsingle (Percent.eq_of_dots_segment (n := 1) h)
  notDouble := beq_eq_false_iff_ne.mpr fun h ↦ hdouble (Percent.eq_of_dots_segment (n := 2) h)

/-! ### Paths of segments -/

private theorem encoded_eq_self (h : IsWhole s) : encoded pathKeeps s.toList = s := by
  rw [encoded, Percent.encode_eq_self fun c hc ↦ (h c hc).1, String.ofList_toList]

/-- Whole segments have no other slash in them. -/
theorem map_slash_eq_self (h : IsWhole s) :
    (s.toList.map fun c ↦ if isSlash special c then '/' else c) = s.toList := by
  refine (List.map_congr_left fun c hc ↦ ?_).trans (List.map_id _)
  obtain ⟨-, hslash, hback⟩ := h c hc
  simp [isSlash, hslash, hback]

private theorem pieces_cons (h : IsWhole s) (rest : List Char) :
    pieces special (s.toList ++ '/' :: rest) = s.toList :: pieces special rest := by
  have hslash : '/' ∉ s.toList := fun hc ↦ (h _ hc).2.1 rfl
  rw [pieces, List.map_append, map_slash_eq_self h, List.map_cons, if_pos (by rfl),
    Text.splitAtChar_append hslash]
  rfl

private theorem pieces_single (h : IsWhole s) : pieces special s.toList = [s.toList] := by
  have hslash : '/' ∉ s.toList := fun hc ↦ (h _ hc).2.1 rfl
  rw [pieces, map_slash_eq_self h, Text.splitAtChar_of_not_mem hslash]

/-- No segments, no text. -/
theorem segmentsText_nil : segmentsText [] = "" := by
  decide

/-- Every segment stands behind a slash. -/
theorem segmentsText_cons (s : String) (items : List String) :
    segmentsText (s :: items) = "/" ++ s ++ segmentsText items := by
  simp [segmentsText]

private theorem toList_segmentsText_cons (s : String) (items : List String) :
    (segmentsText (s :: items)).toList = '/' :: (s.toList ++ (segmentsText items).toList) := by
  rw [segmentsText_cons, String.toList_append, String.toList_append, List.append_assoc]
  rfl

/-- A path of whole segments is taken apart into them. -/
theorem pieces_segmentsText (h : ∀ s ∈ items, IsWhole s) (hne : items ≠ []) :
    pieces special (segmentsText items).toList.tail = items.map String.toList := by
  induction items with
  | nil => exact absurd rfl hne
  | cons s rest ih =>
    obtain ⟨hs, hrest⟩ := List.forall_mem_cons.mp h
    rw [toList_segmentsText_cons, List.tail_cons, List.map_cons]
    cases rest with
    | nil =>
      rw [segmentsText_nil, String.toList_empty, List.append_nil, pieces_single hs, List.map_nil]
    | cons t rest =>
      rw [← ih hrest (List.cons_ne_nil t rest), toList_segmentsText_cons, pieces_cons hs,
        List.tail_cons]

/-- The text of a path tells its segments. -/
theorem segmentsText_inj (h : ∀ s ∈ items, IsWhole s) (h' : ∀ s ∈ others, IsWhole s)
    (hne : items ≠ []) (hne' : others ≠ []) (heq : segmentsText items = segmentsText others) :
    items = others := by
  have hpieces : pieces true (segmentsText items).toList.tail = items.map String.toList :=
    pieces_segmentsText h hne
  rw [heq, pieces_segmentsText h' hne'] at hpieces
  exact (List.map_inj_right fun _ _ ↦ String.toList_inj.mp).mp hpieces.symm

namespace Trail

/-- A settled segment is one more step down. -/
theorem follow_cons (h : Settled s) (t : Trail) (rest : List (List Char)) :
    t.follow add (s.toList :: rest) = (t.down s).follow add rest := by
  rw [follow, joined_eq_self h.isWhole, h.notDouble, h.notSingle]
  simp [add, joined_eq_self h.isWhole, encoded_eq_self h.isWhole]

/-- A dot in front of other pieces is passed over. -/
theorem follow_dot (t : Trail) (piece : List Char) (rest : List (List Char)) :
    t.follow add (".".toList :: piece :: rest) = t.follow add (piece :: rest) :=
  rfl

/-- Two dots in front of other pieces are one step up. -/
theorem follow_dots (t : Trail) (piece : List Char) (rest : List (List Char)) :
    t.follow add ("..".toList :: piece :: rest) = t.up.follow add (piece :: rest) :=
  rfl

end Trail

end Url

end SeriesAcl
