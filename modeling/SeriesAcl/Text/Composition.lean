import SeriesAcl.Text.CompositionTable
import SeriesAcl.Text.Table

/-!
# Composition

The composed form of a text, in which a letter and its marks are one character where there is one.
Every character is taken apart first; then the marks behind a letter are put in order, so that it
does not matter in which order they were written, and joined again from the first to the last.
-/

namespace SeriesAcl.Text

open CompositionTable

/-! ## Syllables of Hangul -/

/-- The first syllable of Hangul; syllables are ordered by their leading consonant, their vowel and
their trailing consonant. -/
def firstSyllable : Nat := 0xAC00

/-- The first leading consonant. -/
def firstLeading : Nat := 0x1100

/-- The first vowel. -/
def firstVowel : Nat := 0x1161

/-- The code point before the first trailing consonant, which stands for none. -/
def noTrailing : Nat := 0x11A7

/-- The number of leading consonants. -/
def leadingCount : Nat := 19

/-- The number of vowels. -/
def vowelCount : Nat := 21

/-- The number of trailing consonants, none being one of them. -/
def trailingCount : Nat := 28

/-- The letters of a syllable. -/
def syllableLetters? (c : Char) : Option (List Char) :=
  let n := c.toNat - firstSyllable
  if firstSyllable ≤ c.toNat ∧ n < leadingCount * vowelCount * trailingCount then
    let leading := Char.ofNat (firstLeading + n / (vowelCount * trailingCount))
    let vowel := Char.ofNat (firstVowel + n / trailingCount % vowelCount)
    let trailing := n % trailingCount
    some (leading :: vowel :: if trailing = 0 then [] else [Char.ofNat (noTrailing + trailing)])
  else none

/-- The syllable of two letters, or of a syllable without trailing consonant and such a letter. -/
def joinSyllable? (a b : Char) : Option Char :=
  let leading := a.toNat - firstLeading
  let vowel := b.toNat - firstVowel
  let syllable := a.toNat - firstSyllable
  let trailing := b.toNat - noTrailing
  if firstLeading ≤ a.toNat ∧ leading < leadingCount ∧
      firstVowel ≤ b.toNat ∧ vowel < vowelCount then
    some (Char.ofNat (firstSyllable + (leading * vowelCount + vowel) * trailingCount))
  else if firstSyllable ≤ a.toNat ∧ syllable < leadingCount * vowelCount * trailingCount ∧
      syllable % trailingCount = 0 ∧ noTrailing < b.toNat ∧ trailing < trailingCount then
    some (Char.ofNat (a.toNat + trailing))
  else none

/-! ## Parts of a character -/

/-- The two characters that a character stands for. -/
def pair? (c : Char) : Option (Char × Char) :=
  let joined := joinedPairs.findSome? fun (second, pairs) ↦
    (pairs.find? fun (_, whole) ↦ whole == c.toNat).map fun pair ↦ (pair.1, second)
  let parted := (partedPairs.find? fun (whole, _) ↦ whole == c.toNat).map Prod.snd
  (joined.or parted).map fun parts ↦ (Char.ofNat parts.1, Char.ofNat parts.2)

/-- How often a character that stands for others may have to be replaced. -/
def decompositionDepth : Nat := 4

/-- The characters that a character stands for, after at most `depth` replacements. -/
def decomposeChar : Nat → Char → List Char
  | 0, c => [c]
  | depth + 1, c =>
    match syllableLetters? c, inRows? singles c.toNat, pair? c with
    | some letters, _, _ => letters
    | none, some n, _ => decomposeChar depth (Char.ofNat n)
    | none, none, some (first, second) => decomposeChar depth first ++ [second]
    | none, none, none => [c]

/-- The class of a mark. Other characters have the class 0. -/
def markClass (c : Char) : Nat :=
  match classRanges.find? fun (first, last, _) ↦ first ≤ c.toNat && c.toNat ≤ last with
  | some (_, _, number) => number
  | none => 0

/-- A character before a text whose marks are in order, behind the marks of lower classes that the
text starts with. -/
def placeMark (c : Char) : List Char → List Char
  | [] => [c]
  | d :: ds =>
    if markClass d ≠ 0 ∧ markClass d < markClass c then d :: placeMark c ds else c :: d :: ds

/-- A text taken apart, its marks in order. -/
def decompose (s : List Char) : List Char :=
  (s.flatMap (decomposeChar decompositionDepth)).foldr placeMark []

/-! ## Joining -/

/-- What a character and the one behind it become. -/
def join? (a b : Char) : Option Char :=
  let joined : Option Char := do
    let row ← joinedPairs.find? fun (second, _) ↦ second == b.toNat
    let pair ← row.2.find? fun (first, _) ↦ first == a.toNat
    return Char.ofNat pair.2
  joined.or (joinSyllable? a b)

/-- The composed form of a text behind the character `base` and the marks `held`, last one first,
which did not join it. A mark joins the base when no mark of its own class or a higher one is
between them, a character of class 0 only when it follows the base. -/
def composeFrom (base : Char) (held : List Char) : List Char → List Char
  | [] => base :: held.reverse
  | c :: rest =>
    let free := held.all fun d ↦ markClass d < markClass c
    match if free then join? base c else none with
    | some joined => composeFrom joined held rest
    | none =>
      if markClass c = 0 then base :: (held.reverse ++ composeFrom c [] rest)
      else composeFrom base (c :: held) rest

/-- The composed form of a text that is taken apart. -/
def composeParts : List Char → List Char
  | [] => []
  | c :: rest => if markClass c = 0 then composeFrom c [] rest else c :: composeParts rest

/-- The composed form of a text. -/
def compose (s : List Char) : List Char :=
  composeParts (decompose s)

end SeriesAcl.Text
