import SeriesAcl.Http.Domain.FormTable
import SeriesAcl.Http.Domain.LabelTable
import SeriesAcl.Http.Punycode
import SeriesAcl.Text.Composition
import SeriesAcl.Text.Lowercase
import SeriesAcl.Text.Search

/-!
# Domain names

International domain names in the one form that they have in addresses. The characters of a name are
replaced by their common forms and composed. Then its labels are checked: no label starts with a
mark, joiners stand only where they show, and the labels of a name that is written from right to
left have one direction. Labels outside ASCII are written in punycode; labels that are given in
punycode have to stand for such a label.
-/

namespace SeriesAcl.Domain

/-! ## Characters -/

/-- The characters of ASCII that no name has, beside the controls and the blank. -/
def forbidden : List Char := "#/:<>?@[\\]^|%".toList

/-- Whether a name can hold a character when all characters have their common forms. -/
def isAllowed (c : Char) : Bool :=
  0x80 ≤ c.toNat || (0x20 < c.toNat && c.toNat != 0x7F && !forbidden.contains c)

/-- The form of a character that the tables name, or its lower case. -/
def commonForm (c : Char) : List Char :=
  let several := (Text.inRows? FormTable.signs c.toNat).or
    (Text.inRows? FormTable.ligatures c.toNat)
  let shift := FormTable.shifts.find? fun (first, last, _) ↦ first ≤ c.toNat && c.toNat ≤ last
  let one := (shift.map fun (first, _, form) ↦ form + (c.toNat - first)).or
    (Text.inRows? FormTable.letters c.toNat)
  match several.or (one.map ([·])) with
  | some form => form.map Char.ofNat
  | none => if Text.inRanges FormTable.keptCapitals c then [c] else Text.lowerChar c

/-- The characters that a character of a name is replaced by, unless no name holds it. -/
def form? (c : Char) : Option (List Char) :=
  if c.toNat < 0x80 then some [c.toLower]
  else if Text.inRanges FormTable.refused c then none
  else if Text.inRanges FormTable.ignored c then some []
  else some (commonForm c)

/-- A name with its characters in their common forms, composed. -/
def normalize? (name : List Char) : Option (List Char) := do
  let forms ← name.mapM form?
  let normal := Text.compose forms.flatten
  if normal.all isAllowed then some normal else none

/-! ## Marks and joiners -/

/-- Whether a character is a mark. -/
def isMark (c : Char) : Bool :=
  Text.inRanges LabelTable.nonspacing c || Text.inRanges LabelTable.spacing c

/-- Whether joining looks past a character. -/
def isLookedPast (c : Char) : Bool :=
  Text.inRanges LabelTable.nonspacing c || Text.inRanges LabelTable.lookedPast c

/-- The character that keeps its neighbours from joining. -/
def nonJoiner : Char := Char.ofNat 0x200C

/-- The character that makes its neighbours join. -/
def joiner : Char := Char.ofNat 0x200D

/-- The class of the marks that silence the vowel of a letter. -/
def viramaClass : Nat := 9

/-- Whether the first character that is not looked past lies in one of the tables. -/
def meets (tables : List (List (Nat × Nat))) : List Char → Bool
  | [] => false
  | c :: cs =>
    if tables.any (Text.inRanges · c) then true
    else if isLookedPast c then meets tables cs
    else false

/-- Whether a joiner or non-joiner may stand between the characters `before`, last one first, and
the characters `behind`: behind a silencing mark, and the non-joiner between letters that would join
otherwise. -/
def joinerFits (c : Char) (before behind : List Char) : Bool :=
  match before with
  | [] => false
  | previous :: _ =>
    Text.markClass previous == viramaClass ||
      (c == nonJoiner && meets [LabelTable.joinsBoth, LabelTable.joinsNext] before &&
        meets [LabelTable.joinsBoth, LabelTable.joinsPrevious] behind)

/-- Whether all joiners and non-joiners behind the characters `before`, last first, may stand. -/
def joinersFit (before : List Char) : List Char → Bool
  | [] => true
  | c :: rest =>
    (!(c == joiner || c == nonJoiner) || joinerFits c before rest) && joinersFit (c :: before) rest

/-! ## Direction of writing -/

/-- How a character is written. -/
inductive Direction where
  | leftToRight
  | rightToLeft
  | arabicNumber
  | europeanNumber
  | nonspacing
  | neutral
  deriving DecidableEq, Repr

/-- How a character is written: from left to right, if no table tells otherwise. -/
def direction (c : Char) : Direction :=
  if Text.inRanges LabelTable.nonspacing c then .nonspacing
  else if Text.inRanges LabelTable.rightToLeft c then .rightToLeft
  else if Text.inRanges LabelTable.arabicNumbers c then .arabicNumber
  else if Text.inRanges LabelTable.europeanNumbers c then .europeanNumber
  else if Text.inRanges LabelTable.neutrals c then .neutral
  else .leftToRight

/-- The directions that a label from left to right may have, besides marks and neutral ones. -/
def Direction.fitsLeftToRight (d : Direction) : Bool :=
  d == .leftToRight || d == .europeanNumber

/-- The directions that a label from right to left may have, besides marks and neutral ones. -/
def Direction.fitsRightToLeft (d : Direction) : Bool :=
  d == .rightToLeft || d == .europeanNumber || d == .arabicNumber

/-- Whether what follows the first character of a label fits: its characters have the directions
that `fits` tells or none, and the last one, marks aside, has one of them. -/
def directionsFit (fits : Direction → Bool) (rest : List Direction) : Bool :=
  let spaced := rest.filter (· ≠ .nonspacing)
  spaced.all (fun d ↦ fits d || d == .neutral) && (spaced.getLast?.map fits).getD true

/-- Whether a label has one direction: that of its first character, which is a letter. A label from
right to left has numbers of one kind only. -/
def hasOneDirection (label : List Char) : Bool :=
  match label.map direction with
  | [] => true
  | .leftToRight :: rest => directionsFit Direction.fitsLeftToRight rest
  | .rightToLeft :: rest =>
    directionsFit Direction.fitsRightToLeft rest &&
      !(rest.contains .europeanNumber && rest.contains .arabicNumber)
  | _ :: _ => false

/-- Whether a label has a character that makes a name one that is written from right to left. -/
def hasRightToLeft (label : List Char) : Bool :=
  label.any fun c ↦ direction c == .rightToLeft || direction c == .arabicNumber

/-! ## Labels -/

/-- Whether all characters are in ASCII. -/
def isAscii (label : List Char) : Bool :=
  label.all fun c ↦ c.toNat < 0x80

/-- What a label in punycode starts with. -/
def punycodeMark : List Char := "xn--".toList

/-- The most characters that a label outside ASCII has. -/
def longestLabel : Nat := 1000

/-- The most characters that a label has behind the mark of punycode. -/
def longestPunycode : Nat := 2000

/-- The label that stands in punycode behind the mark: one that is normal, and not in ASCII. -/
def readPunycode? (code : List Char) : Option (List Char) :=
  if code.length ≤ longestPunycode ∧ isAscii code ∧ code.getLast?.any (· ≠ '-') then
    (Punycode.decode? code).filter fun label ↦
      label.all (fun c ↦ form? c = some [c]) && Text.compose label == label && label.all isAllowed
  else none

/-- The label that a normal label stands for, if it may stand in a name. -/
def readLabel? (label : List Char) : Option (List Char) :=
  let meant := match Text.after? punycodeMark label with
    | none => some label
    | some code => readPunycode? code
  meant.filter fun s ↦
    !(s.head?.any isMark) && joinersFit [] s && (isAscii s || s.length ≤ longestLabel)

/-- A label in ASCII. -/
def labelToAscii (label : List Char) : List Char :=
  if isAscii label then label else punycodeMark ++ Punycode.encode label

/-- A domain name in ASCII. -/
def toAscii? (name : List Char) : Option (List Char) := do
  let normal ← normalize? name
  let labels ← (Text.splitAtChar '.' normal).mapM readLabel?
  if labels.any hasRightToLeft ∧ ¬ labels.all hasOneDirection then none
  else some (['.'].intercalate (labels.map labelToAscii))

end SeriesAcl.Domain
