import SeriesAcl.Http.Domain
import SeriesAcl.Http.Percent
import SeriesAcl.Text.Search

/-!
# Hosts

The host of an address: a domain name, four numbers or eight. A domain name that ends in a number
has to be an address of four numbers, each of them to the base 10, 8 or 16, the last one filling the
places that are left.
-/

namespace SeriesAcl

/-- Why an address cannot be read. -/
inductive UrlFault where
  | relative
  | opaqueBase
  | emptyHost
  | invalidDomain
  | invalidDomainCharacter
  | invalidIpv4
  | invalidIpv6
  | invalidPortNumber
  deriving DecidableEq, Repr

/-- The reason in words. -/
def UrlFault.message : UrlFault → String
  | .relative => "relative URL without a base"
  | .opaqueBase => "relative URL with a cannot-be-a-base base"
  | .emptyHost => "empty host"
  | .invalidDomain => "invalid international domain name"
  | .invalidDomainCharacter => "invalid domain character"
  | .invalidIpv4 => "invalid IPv4 address"
  | .invalidIpv6 => "invalid IPv6 address"
  | .invalidPortNumber => "invalid port number"

/-- A host: a name, a number of 32 bits, or eight numbers of 16 bits. -/
inductive Host where
  | name (text : String)
  | ipv4 (address : Nat)
  | ipv6 (groups : List Nat)
  deriving DecidableEq, Repr

namespace Host

/-- The value of digits to a base, if all of them are digits of it. -/
def readDigits? (base : Nat) (acc : Nat) : List Char → Option Nat
  | [] => some acc
  | c :: cs =>
    match Percent.hexValue? c with
    | none => none
    | some d => if d < base then readDigits? base (acc * base + d) cs else none

/-- The value of one part of an IPv4 address; its first characters tell the base. -/
def readPart? : List Char → Option Nat
  | [] => none
  | '0' :: 'x' :: digits => readDigits? 16 0 digits
  | '0' :: 'X' :: digits => readDigits? 16 0 digits
  | '0' :: d :: digits => readDigits? 8 0 (d :: digits)
  | digits => readDigits? 10 0 digits

/-- The labels of a name without the empty one that a dot at its end leaves. -/
def labels (name : List Char) : List (List Char) :=
  let parts := Text.splitAtChar '.' name
  if 1 < parts.length ∧ parts.getLast? = some [] then parts.dropLast else parts

/-- Whether the last label of a name is a number, so that the name has to be an address. -/
def endsInNumber (name : List Char) : Bool :=
  match (labels name).getLast? with
  | none => false
  | some [] => false
  | some last => last.all (fun c ↦ '0' ≤ c && c ≤ '9') || (readPart? last).isSome

/-- The number that parts put together: each but the last fills eight bits. -/
def joinParts? (bits : Nat) : List Nat → Option Nat
  | [] => none
  | [last] => if last < Nat.pow 2 bits then some last else none
  | part :: parts =>
    if part < 256 then
      (joinParts? (bits - 8) parts).map fun low ↦ part * Nat.pow 2 (bits - 8) + low
    else none

/-- The address that a name spells. -/
def readIpv4? (name : List Char) : Option Nat :=
  let parts := labels name
  if 4 < parts.length then none
  else (parts.mapM readPart?) >>= joinParts? 32

/-- One of the four numbers at the end of an IPv6 address. -/
def readByte? (s : List Char) : Option Nat :=
  match s with
  | [] => none
  | '0' :: _ :: _ => none
  | digits => (readDigits? 10 0 digits).filter (· < 256)

/-- A group of up to four digits, or at the end of the address four numbers that make two groups. -/
def readGroup? (atEnd : Bool) (s : List Char) : Option (List Nat) :=
  if s ≠ [] ∧ s.length ≤ 4 ∧ s.all (fun c ↦ (Percent.hexValue? c).isSome) then
    (readDigits? 16 0 s).map fun n ↦ [n]
  else if atEnd then
    match (Text.splitAtChar '.' s).mapM readByte? with
    | some [a, b, c, d] => some [a * 256 + b, c * 256 + d]
    | _ => none
  else none

/-- The groups of a text without the double colon. -/
def readGroups? (atEnd : Bool) : List (List Char) → Option (List Nat)
  | [] => some []
  | [last] => readGroup? atEnd last
  | s :: rest => do
    let group ← readGroup? false s
    return group ++ (← readGroups? atEnd rest)

/-- The groups between colons; an empty text has none. -/
def readSide? (atEnd : Bool) (s : List Char) : Option (List Nat) :=
  if s.isEmpty then some [] else readGroups? atEnd (Text.splitAtChar ':' s)

/-- The eight groups that a text spells; a double colon stands for as many zeros as are lacking, at
least one. -/
def readIpv6? (s : List Char) : Option (List Nat) :=
  match Text.cut? [':', ':'] s with
  | none => (readSide? true s).filter (·.length = 8)
  | some (front, back) => do
    let head ← readSide? false front
    let tail ← readSide? true back
    let count := head.length + tail.length
    if count ≤ 7 then some (head ++ List.replicate (8 - count) 0 ++ tail) else none

/-- The eight groups in brackets. -/
def readBracketed (s : List Char) : Except UrlFault Host :=
  if s.getLast? = some ']' then
    match readIpv6? s.dropLast with
    | some groups => .ok (.ipv6 groups)
    | none => .error .invalidIpv6
  else .error .invalidIpv6

/-- A host of the schemes with a known form. -/
def read (s : List Char) : Except UrlFault Host :=
  match s with
  | '[' :: rest => readBracketed rest
  | _ =>
    match Percent.decode? s with
    | none => .error .invalidDomain
    | some decoded =>
      match Domain.toAscii? decoded.toList with
      | none => .error .invalidDomain
      | some [] => .error .emptyHost
      | some domain =>
        if endsInNumber domain then
          match readIpv4? domain with
          | some address => .ok (.ipv4 address)
          | none => .error .invalidIpv4
        else .ok (.name (String.ofList domain))

/-- The characters that no host of another scheme has. -/
def forbiddenOpaque : List Char := "\x00\t\n\r #/:<>?@[\\]^|".toList

/-- A host of another scheme, whose name is kept, with controls and what is outside ASCII
escaped. -/
def readOpaque (s : List Char) : Except UrlFault Host :=
  match s with
  | '[' :: rest => readBracketed rest
  | _ =>
    if s.any forbiddenOpaque.contains then .error .invalidDomainCharacter
    else .ok (.name (String.ofList (Percent.encode (fun c ↦ ' ' ≤ c && c ≤ '~') s)))

/-- The digits of a number to the base 16. -/
def hexText (n : Nat) : String :=
  String.ofList (Nat.toDigits 16 n)

/-- The number of zeros at the start of a list. -/
def zerosAt (groups : List Nat) : Nat :=
  (groups.takeWhile (· == 0)).length

/-- Place and length of the longest run of zeros, the first of several. -/
def longestZeros (place : Nat) : List Nat → Nat × Nat
  | [] => (place, 0)
  | n :: groups =>
    let here := zerosAt (n :: groups)
    let later := longestZeros (place + 1) groups
    if later.2 ≤ here then (place, here) else later

/-- Groups between colons. -/
def groupsText (groups : List Nat) : String :=
  ":".intercalate (groups.map hexText)

/-- Eight groups, with the longest run of two or more zeros left out. -/
def ipv6Text (groups : List Nat) : String :=
  let (place, count) := longestZeros 0 groups
  if count < 2 then groupsText groups
  else groupsText (groups.take place) ++ "::" ++ groupsText (groups.drop (place + count))

/-- Four numbers between dots. -/
def ipv4Text (address : Nat) : String :=
  ".".intercalate ([24, 16, 8, 0].map fun place ↦ toString (address / Nat.pow 2 place % 256))

/-- The host as it stands in an address. -/
def toText : Host → String
  | .name text => text
  | .ipv4 address => ipv4Text address
  | .ipv6 groups => "[" ++ ipv6Text groups ++ "]"

/-- Whether there is no host. -/
def isEmpty : Host → Bool
  | .name text => text == ""
  | _ => false

end Host

end SeriesAcl
