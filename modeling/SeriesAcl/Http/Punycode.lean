/-!
# Punycode

Labels of domain names in letters, digits and hyphens. The characters of ASCII stand first; the
others follow as a sequence of numbers, each of which says how far to count, in code points and
places, to the next insertion. The numbers have digits of a varying weight that adapts to the sizes
seen so far.
-/

namespace SeriesAcl.Punycode

/-- The number of digits. -/
def base : Nat := 36

/-- The least threshold of a digit. -/
def leastThreshold : Nat := 1

/-- The greatest threshold of a digit. -/
def greatestThreshold : Nat := 26

/-- The first code point that is not in ASCII. -/
def firstCodePoint : Nat := 0x80

/-- The bias before the first insertion. -/
def firstBias : Nat := 72

/-- The digit for a number below 36. -/
def digit (n : Nat) : Char :=
  if n < 26 then Char.ofNat (97 + n) else Char.ofNat (22 + n)

/-- The number of a digit. -/
def digitValue? (c : Char) : Option Nat :=
  if 'a' ≤ c ∧ c ≤ 'z' then some (c.toNat - 97)
  else if 'A' ≤ c ∧ c ≤ 'Z' then some (c.toNat - 65)
  else if '0' ≤ c ∧ c ≤ '9' then some (c.toNat - 22)
  else none

/-- The threshold of the digit at position `k`, which counts in steps of the base. -/
def threshold (k bias : Nat) : Nat :=
  max leastThreshold (min greatestThreshold (k - bias))

/-- The bias that a damped distance leads to. -/
def settle (k delta : Nat) : Nat :=
  if _h : 455 < delta then settle (k + base) (delta / 35)
  else k + base * delta / (delta + 38)
termination_by delta
decreasing_by exact Nat.div_lt_self (by omega) (by decide)

/-- The bias after an insertion at a distance, among `count` characters. -/
def adapt (delta count : Nat) (first : Bool) : Nat :=
  let damped := if first then delta / 700 else delta / 2
  settle 0 (damped + damped / count)

/-- A threshold is at least one. -/
theorem threshold_pos (k bias : Nat) : 0 < threshold k bias := by
  unfold threshold leastThreshold; omega

/-- The digits of a number. -/
def digits (bias k n : Nat) : List Char :=
  let t := threshold k bias
  if _h : n < t then [digit n]
  else digit (t + (n - t) % (base - t)) :: digits bias (k + base) ((n - t) / (base - t))
termination_by n
decreasing_by
  have := threshold_pos k bias
  exact Nat.lt_of_le_of_lt (Nat.div_le_self _ _) (by omega)

/-- What is known between two insertions: the distance counted so far, the bias, and how many
characters are placed. -/
structure Progress where
  delta : Nat
  bias : Nat
  placed : Nat
  deriving Repr

/-- The insertions of one code point, in the order of its places. -/
def insertions (basic codePoint : Nat) (p : Progress) : List Nat → List Char × Progress
  | [] => ([], p)
  | c :: rest =>
    if c < codePoint then insertions basic codePoint { p with delta := p.delta + 1 } rest
    else if c = codePoint then
      let bias := adapt p.delta (p.placed + 1) (p.placed == basic)
      let (text, q) := insertions basic codePoint ⟨0, bias, p.placed + 1⟩ rest
      (digits p.bias base p.delta ++ text, q)
    else insertions basic codePoint p rest

/-- The insertions of the code points in a list, which ascends and starts at `next` or above. -/
def allInsertions (basic : Nat) (label : List Nat) (next : Nat) (p : Progress) :
    List Nat → List Char
  | [] => []
  | codePoint :: rest =>
    let start := { p with delta := p.delta + (codePoint - next) * (p.placed + 1) }
    let (text, q) := insertions basic codePoint start label
    text ++ allInsertions basic label (codePoint + 1) { q with delta := q.delta + 1 } rest

/-- A number at its place among ascending ones, unless it is there. -/
def place (n : Nat) : List Nat → List Nat
  | [] => [n]
  | m :: ms => if n < m then n :: m :: ms else if n = m then m :: ms else m :: place n ms

/-- A label in letters, digits and hyphens. -/
def encode (label : List Char) : List Char :=
  let codePoints := label.map Char.toNat
  let basic := label.filter fun c ↦ c.toNat < firstCodePoint
  let others := (codePoints.filter (firstCodePoint ≤ ·)).foldr place []
  let head := if basic.isEmpty then [] else basic ++ ['-']
  head ++ allInsertions basic.length codePoints firstCodePoint ⟨0, firstBias, basic.length⟩ others

/-- What is known while digits are read: the label so far, the place and code point of the last
insertion, the bias, and of the number being read its value, its weight and its next position. -/
structure Reading where
  label : List Char
  index : Nat
  codePoint : Nat
  bias : Nat
  value : Nat
  weight : Nat
  position : Nat

/-- Nothing is read of the next number. -/
def Reading.await (label : List Char) (index codePoint bias : Nat) : Reading :=
  ⟨label, index, codePoint, bias, 0, 1, base⟩

/-- The character of a code point, if there is one. -/
def character? (n : Nat) : Option Char :=
  if h : n.isValidChar then some (Char.ofNatAux n h) else none

/-- A label with the insertion that a complete number asks for. -/
def Reading.insert? (r : Reading) (value : Nat) : Option Reading :=
  let count := r.label.length + 1
  let target := r.index + value
  let codePoint := r.codePoint + target / count
  let place := target % count
  (character? codePoint).map fun c ↦
    Reading.await (r.label.take place ++ c :: r.label.drop place) (place + 1) codePoint
      (adapt value count (r.index == 0))

/-- The label after the digits of the insertions. -/
def insertAll? (r : Reading) : List Char → Option (List Char)
  | [] => if r.weight = 1 ∧ r.position = base then some r.label else none
  | c :: rest =>
    match digitValue? c with
    | none => none
    | some d =>
      let t := threshold r.position r.bias
      let value := r.value + d * r.weight
      if d < t then
        match r.insert? value with
        | none => none
        | some next => insertAll? next rest
      else
        let next : Reading :=
          { r with value := value, weight := r.weight * (base - t), position := r.position + base }
        insertAll? next rest

/-- The characters of ASCII in a label, which end at its last hyphen, and the digits behind them. -/
def split (s : List Char) : List Char × List Char :=
  let digits := (s.reverse.takeWhile (· ≠ '-')).reverse
  match s.reverse.dropWhile (· ≠ '-') with
  | '-' :: c :: before => ((c :: before).reverse, digits)
  | _ => ([], s)

/-- The label that a text of letters, digits and hyphens stands for. -/
def decode? (s : List Char) : Option (List Char) :=
  let (basic, rest) := split s
  insertAll? (Reading.await basic 0 firstCodePoint firstBias) rest

end SeriesAcl.Punycode
