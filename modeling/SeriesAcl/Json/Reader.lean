import SeriesAcl.Json.Node

/-!
# Reading JSON text

Strict JSON: no comments, no trailing commas, no raw control characters in strings, blanks only of
the four JSON kinds. Nesting deeper than 127 levels is read for its form but has no value. Reading
never fails: a text that stops being JSON gives a tree with a `broken` leaf at that place.
-/

namespace SeriesAcl.Json

/-- What was read, and the text behind it; no text is left where it stopped being JSON. -/
structure Reading (α : Type) where
  value : α
  rest : Option (List Char)

/-- The whole of a text: its tree, and whether only blanks follow it. -/
structure Document where
  root : Node
  endsClean : Bool

namespace Reader

/-- How many levels of nesting have a value. -/
def maxDepth : Nat := 127

/-- The blanks between the parts of a text. -/
def isSpace (c : Char) : Bool :=
  c = ' ' || c = '\t' || c = '\n' || c = '\r'

/-- The text without leading blanks. -/
def skipSpace (s : List Char) : List Char :=
  s.dropWhile isSpace

/-- A part of a string as written: a character, or a code unit given by its number. -/
inductive Piece where
  | char (c : Char)
  | unit (n : Nat)

/-- The value of a hexadecimal digit. -/
def hexDigit? (c : Char) : Option Nat :=
  if '0' ≤ c ∧ c ≤ '9' then some (c.toNat - 48)
  else if 'a' ≤ c ∧ c ≤ 'f' then some (c.toNat - 87)
  else if 'A' ≤ c ∧ c ≤ 'F' then some (c.toNat - 55)
  else none

/-- The number of four hexadecimal digits. -/
def hexUnit? (a b c d : Char) : Option Nat := do
  return (((← hexDigit? a) * 16 + (← hexDigit? b)) * 16 + (← hexDigit? c)) * 16 + (← hexDigit? d)

/-- The character a one-letter escape stands for. -/
def escaped? (c : Char) : Option Char :=
  if c = '"' ∨ c = '\\' ∨ c = '/' then some c
  else if c = 'b' then some (Char.ofNat 0x8)
  else if c = 'f' then some (Char.ofNat 0xC)
  else if c = 'n' then some '\n'
  else if c = 'r' then some '\r'
  else if c = 't' then some '\t'
  else none

/-- The pieces of a string up to its closing quote, and the text behind it. -/
def pieces? : List Char → Option (List Piece × List Char)
  | [] => none
  | '"' :: rest => some ([], rest)
  | '\\' :: 'u' :: a :: b :: c :: d :: rest => do
    let n ← hexUnit? a b c d
    let (ps, rest) ← pieces? rest
    return (.unit n :: ps, rest)
  | '\\' :: e :: rest => do
    let c ← escaped? e
    let (ps, rest) ← pieces? rest
    return (.char c :: ps, rest)
  | c :: rest =>
    if c = '\\' ∨ c.toNat < 0x20 then none
    else do
      let (ps, rest) ← pieces? rest
      return (.char c :: ps, rest)

/-- The characters of the pieces. Two code units of a surrogate pair that stand together are one
character; any other surrogate has no value. -/
def characters? : List Piece → Option (List Char)
  | [] => some []
  | .char c :: ps => (characters? ps).map (c :: ·)
  | [.unit n] => if 0xD800 ≤ n ∧ n < 0xE000 then none else some [Char.ofNat n]
  | .unit n :: .char c :: ps =>
    if 0xD800 ≤ n ∧ n < 0xE000 then none
    else (characters? ps).map fun cs ↦ Char.ofNat n :: c :: cs
  | .unit n :: .unit m :: ps =>
    if 0xD800 ≤ n ∧ n < 0xDC00 then
      if 0xDC00 ≤ m ∧ m < 0xE000 then
        (characters? ps).map (Char.ofNat (0x10000 + (n - 0xD800) * 0x400 + (m - 0xDC00)) :: ·)
      else none
    else if 0xDC00 ≤ n ∧ n < 0xE000 then none
    else (characters? (.unit m :: ps)).map (Char.ofNat n :: ·)

/-- A string behind its opening quote: its value, if it has one, and the text behind it. -/
def string? (s : List Char) : Option (Option String × List Char) :=
  (pieces? s).map fun (ps, rest) ↦ ((characters? ps).map String.ofList, rest)

/-- The value of a decimal digit. -/
def decimal? (c : Char) : Option Nat :=
  if '0' ≤ c ∧ c ≤ '9' then some (c.toNat - 48) else none

/-- The digits at the start of a text, and the text behind them. -/
def digits : List Char → List Nat × List Char
  | [] => ([], [])
  | c :: cs =>
    match decimal? c with
    | none => ([], c :: cs)
    | some d => let (ds, rest) := digits cs; (d :: ds, rest)

/-- The fraction of a number, if there is one; a point needs a digit behind it. -/
def fraction? : List Char → Option (Option (List Nat) × List Char)
  | '.' :: cs =>
    match digits cs with
    | ([], _) => none
    | (ds, rest) => some (some ds, rest)
  | cs => some (none, cs)

/-- The sign of an exponent and the text behind it. -/
def exponentSign : List Char → Bool × List Char
  | '+' :: cs => (false, cs)
  | '-' :: cs => (true, cs)
  | cs => (false, cs)

/-- The exponent of a number, if there is one; it needs a digit. -/
def exponent? : List Char → Option (Option (Bool × List Nat) × List Char)
  | [] => some (none, [])
  | c :: cs =>
    if c = 'e' ∨ c = 'E' then
      let (negative, cs) := exponentSign cs
      match digits cs with
      | ([], _) => none
      | (ds, rest) => some (some (negative, ds), rest)
    else some (none, c :: cs)

/-- The lexeme of a number behind its sign. A number has a digit, and no zero before another one. -/
def lexeme? (negative : Bool) (cs : List Char) : Option (Lexeme × List Char) := do
  let (whole, rest) := digits cs
  if whole = [] ∨ (whole.head? = some 0 ∧ 1 < whole.length) then none
  else
    let (fraction, rest) ← fraction? rest
    let (exponent, rest) ← exponent? rest
    return (⟨negative, whole, fraction, exponent⟩, rest)

/-- A number behind its sign. -/
def number (negative : Bool) (cs : List Char) : Reading Node :=
  match lexeme? negative cs with
  | none => ⟨.broken, none⟩
  | some (l, rest) =>
    match Number.ofLexeme? l with
    | none => ⟨.unreadable, some rest⟩
    | some n => ⟨.number n, some rest⟩

/-- A tree as it counts at a level of nesting with `room` levels left: past the limit it can only
be skipped. -/
def within (room : Nat) (r : Reading Node) : Reading Node :=
  match room, r.rest with
  | 0, some rest => ⟨.unreadable, some rest⟩
  | 0, none => ⟨.broken, none⟩
  | _ + 1, _ => r

mutual

/-- A value, with `room` levels of nesting left. The fuel bounds the values nested or in sequence;
a text never holds more of them than characters. -/
def value (fuel room : Nat) (s : List Char) : Reading Node :=
  match fuel with
  | 0 => ⟨.broken, none⟩
  | fuel + 1 =>
    match skipSpace s with
    | 'n' :: 'u' :: 'l' :: 'l' :: rest => ⟨.null, some rest⟩
    | 't' :: 'r' :: 'u' :: 'e' :: rest => ⟨.bool true, some rest⟩
    | 'f' :: 'a' :: 'l' :: 's' :: 'e' :: rest => ⟨.bool false, some rest⟩
    | '"' :: rest =>
      match string? rest with
      | none => ⟨.broken, none⟩
      | some (none, rest) => ⟨.unreadable, some rest⟩
      | some (some text, rest) => ⟨.string text, some rest⟩
    | '[' :: rest =>
      match skipSpace rest with
      | ']' :: rest => within room ⟨.array [], some rest⟩
      | rest =>
        let r := items fuel (room - 1) rest
        within room ⟨.array r.value, r.rest⟩
    | '\x7b' :: rest =>
      match skipSpace rest with
      | '\x7d' :: rest => within room ⟨.object [], some rest⟩
      | rest =>
        let r := members fuel (room - 1) rest
        within room ⟨.object r.value, r.rest⟩
    | '-' :: rest => number true rest
    | rest => number false rest

/-- The items of an array from one of them on, up to the closing bracket. -/
def items (fuel room : Nat) (s : List Char) : Reading (List Node) :=
  match fuel with
  | 0 => ⟨[.broken], none⟩
  | fuel + 1 =>
    let item := value fuel room s
    match item.rest with
    | none => ⟨[item.value], none⟩
    | some rest =>
      match skipSpace rest with
      | ']' :: rest => ⟨[item.value], some rest⟩
      | ',' :: rest =>
        let r := items fuel room rest
        ⟨item.value :: r.value, r.rest⟩
      | _ => ⟨[item.value, .broken], none⟩

/-- The members of an object from one of them on, up to the closing brace. -/
def members (fuel room : Nat) (s : List Char) : Reading (List (Option String × Node)) :=
  match fuel with
  | 0 => ⟨[(none, .broken)], none⟩
  | fuel + 1 =>
    match skipSpace s with
    | '"' :: rest =>
      match string? rest with
      | none => ⟨[(none, .broken)], none⟩
      | some (key, rest) =>
        match skipSpace rest with
        | ':' :: rest =>
          let entry := value fuel room rest
          match entry.rest with
          | none => ⟨[(key, entry.value)], none⟩
          | some rest =>
            match skipSpace rest with
            | '\x7d' :: rest => ⟨[(key, entry.value)], some rest⟩
            | ',' :: rest =>
              let r := members fuel room rest
              ⟨(key, entry.value) :: r.value, r.rest⟩
            | _ => ⟨[(key, entry.value), (none, .broken)], none⟩
        | _ => ⟨[(key, .broken)], none⟩
    | _ => ⟨[(none, .broken)], none⟩

end

end Reader

/-- The document a text holds. -/
def Document.read (text : String) : Document :=
  let s := text.toList
  let r := Reader.value (2 * s.length + 2) Reader.maxDepth s
  { root := r.value
    endsClean := match r.rest with
      | none => false
      | some rest => (Reader.skipSpace rest).isEmpty }

end SeriesAcl.Json
