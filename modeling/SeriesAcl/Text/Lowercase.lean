import SeriesAcl.Text.CaseTable
import SeriesAcl.Text.Table

/-!
# Lower case

The full lower-case mapping of the Unicode standard. Two things set it apart from mapping characters
one by one: the dotted capital I becomes two characters, and the capital sigma becomes the final
sigma at the end of a word.
-/

namespace SeriesAcl.Text

/-- The lower case of one character, apart from the rule for sigma. -/
def lowerChar (c : Char) : List Char :=
  if c.toNat < 0x80 then [c.toLower]
  else if c.toNat = 0x130 then ['i', Char.ofNat 0x307]
  else
    let n := c.toNat
    match CaseTable.lowerRanges.find? fun (first, last, step, _) ↦
        first ≤ n && n ≤ last && (n - first) % step == 0 with
    | some (first, _, _, lower) => [Char.ofNat (lower + (n - first))]
    | none => [c]

/-- Whether the first character that is not looked past carries case. -/
def meetsCase : List Char → Bool
  | [] => false
  | c :: cs =>
    if inRanges CaseTable.ignorableRanges c then meetsCase cs
    else inRanges CaseTable.casedRanges c

/-- The lower case of a text whose earlier characters, last one first, are `before`. A capital sigma
ends a word when a cased character stands before it and none behind it. -/
def lowerFrom (before : List Char) : List Char → List Char
  | [] => []
  | c :: cs =>
    if c = 'Σ' then
      (if meetsCase before && !meetsCase cs then 'ς' else 'σ') :: lowerFrom (c :: before) cs
    else lowerChar c ++ lowerFrom (c :: before) cs

/-- The lower case of a text. -/
def lower (s : String) : String :=
  String.ofList (lowerFrom [] s.toList)

/-- Equality of texts up to the case of the letters A to Z. -/
def eqIgnoringAsciiCase (s t : String) : Bool :=
  s.toList.map Char.toLower == t.toList.map Char.toLower

end SeriesAcl.Text
