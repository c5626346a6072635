import SeriesAcl.Http.Host
import SeriesAcl.Text.Unsigned

/-!
# Addresses

Web addresses, read into their parts and written back in one form: the scheme and the host in lower
case, characters escaped that may not stand, dot segments resolved, and the number behind the host
left out when it is the usual one of the scheme. The web schemes take a backslash for a slash and
any number of slashes before the host.
-/

namespace SeriesAcl

/-- The part of an address that says where to connect, and as whom. -/
structure Authority where
  user : String
  password : Option String
  host : Host
  portNumber : Option Nat
  deriving DecidableEq, Repr

namespace Authority

/-- The user name and password before the host. -/
def userText (a : Authority) : String :=
  let password := (a.password.map (":" ++ ·)).getD ""
  if a.user = "" ∧ a.password = none then "" else a.user ++ password ++ "@"

/-- The authority with the slashes before it. -/
def toText (a : Authority) : String :=
  let number := (a.portNumber.map fun n ↦ ":" ++ toString n).getD ""
  "//" ++ a.userText ++ a.host.toText ++ number

end Authority

/-- The path of an address: segments, or a text without structure. -/
inductive UrlPath where
  | segments (items : List String)
  | text (content : String)
  deriving DecidableEq, Repr

/-- An address. -/
structure Url where
  scheme : String
  authority : Option Authority
  path : UrlPath
  query : Option String
  fragment : Option String
  deriving DecidableEq, Repr

namespace Url

/-! ## Which characters may stand -/

/-- The visible characters of ASCII and the space. -/
def isPlain (c : Char) : Bool :=
  ' ' ≤ c && c ≤ '~'

/-- The characters that may stand in a fragment. -/
def fragmentKeeps (c : Char) : Bool :=
  isPlain c && !(" \"<>`".toList.contains c)

/-- The characters that may stand in a path. -/
def pathKeeps (c : Char) : Bool :=
  fragmentKeeps c && !("#?\x7b\x7d".toList.contains c)

/-- The characters that may stand in a user name or password. -/
def userKeeps (c : Char) : Bool :=
  pathKeeps c && !("/:;=@[\\]^|".toList.contains c)

/-- The characters that may stand in a query. -/
def queryKeeps (special : Bool) (c : Char) : Bool :=
  isPlain c && !(" \"#<>".toList.contains c) && !(special && c == '\'')

/-- A part of an address with its characters escaped. -/
def encoded (keeps : Char → Bool) (s : List Char) : String :=
  String.ofList (Percent.encode keeps s)

/-- Whether addresses pass over a character at their ends. -/
def isOuterBlank (c : Char) : Bool :=
  c ≤ ' '

/-- Whether addresses pass over a character everywhere. -/
def isInnerBlank (c : Char) : Bool :=
  c == '\t' || c == '\n' || c == '\r'

/-- A text without the characters that addresses pass over at their ends. -/
def trimmed (s : List Char) : List Char :=
  ((s.dropWhile isOuterBlank).reverse.dropWhile isOuterBlank).reverse

/-- A text without the characters that addresses pass over everywhere. -/
def joined (s : List Char) : List Char :=
  s.filter fun c ↦ !isInnerBlank c

/-! ## Schemes -/

/-- The number of the service that a web scheme usually connects to. -/
def usualPortNumber (scheme : String) : Option Nat :=
  if scheme = "http" ∨ scheme = "ws" then some 80
  else if scheme = "https" ∨ scheme = "wss" then some 443
  else if scheme = "ftp" then some 21
  else none

/-- Whether a scheme is one of those whose addresses have a known form. -/
def isSpecial (scheme : String) : Bool :=
  (usualPortNumber scheme).isSome || scheme == "file"

/-- Whether a character may stand in a scheme. -/
def schemeKeeps (c : Char) : Bool :=
  Percent.isAsciiAlphanumeric c || c == '+' || c == '-' || c == '.'

/-- The scheme in lower case, and what is behind its colon. -/
def splitScheme? (s : List Char) : Option (String × List Char) :=
  let within := fun c ↦ schemeKeeps c || isInnerBlank c
  match joined (s.takeWhile within), s.dropWhile within with
  | first :: name, ':' :: rest =>
    if first.isAlpha then some (String.ofList ((first :: name).map Char.toLower), rest) else none
  | _, _ => none

/-! ## Paths -/

/-- Whether a character ends a segment. -/
def isSlash (special : Bool) (c : Char) : Bool :=
  c == '/' || (special && c == '\\')

/-- The pieces between slashes. -/
def pieces (special : Bool) (s : List Char) : List (List Char) :=
  Text.splitAtChar '/' (s.map fun c ↦ if isSlash special c then '/' else c)

/-- A piece with its escaped dots as dots, when it has no other escapes. -/
def dots (piece : List Char) : List Char :=
  match piece with
  | '%' :: '2' :: 'e' :: rest => '.' :: dots rest
  | '%' :: '2' :: 'E' :: rest => '.' :: dots rest
  | c :: rest => c :: dots rest
  | [] => []

/-- Whether a piece stands for the segment itself. -/
def isSingleDot (piece : List Char) : Bool :=
  dots piece == ['.']

/-- Whether a piece stands for the segment above. -/
def isDoubleDot (piece : List Char) : Bool :=
  dots piece == ['.', '.']

/-- Whether a segment is a drive: a letter and a colon or a bar, alone or before a backslash. -/
def isDrive (segment : String) : Bool :=
  match segment.toList with
  | [letter, mark] => letter.isAlpha && (mark == ':' || mark == '|')
  | letter :: mark :: '\\' :: _ => letter.isAlpha && (mark == ':' || mark == '|')
  | _ => false

/-- Whether a segment is a drive as files are written: a letter and a colon. -/
def isColonDrive (segment : String) : Bool :=
  match segment.toList with
  | [letter, ':'] => letter.isAlpha
  | _ => false

/-- A way down a path: the segments so far, last one first, and whether it starts at a drive. -/
structure Trail where
  above : List String
  onDrive : Bool
  deriving DecidableEq, Repr

namespace Trail

/-- The start of a path. -/
def empty : Trail := ⟨[], false⟩

/-- The segments in the order of the path. -/
def segments (t : Trail) : List String :=
  t.above.reverse

/-- The way down to one more segment. -/
def down (t : Trail) (segment : String) : Trail :=
  { t with above := segment :: t.above }

/-- The way back to the segment above. Nothing is above a drive. -/
def up (t : Trail) : Trail :=
  match t.above with
  | [] => t
  | segment :: rest => if isDrive segment then t else { t with above := rest }

/-- The way down to the segment that a piece spells. -/
def add (t : Trail) (piece : List Char) : Trail :=
  t.down (encoded pathKeeps (joined piece))

/-- The way along pieces, where `add` tells what a piece spells. A dot piece at the end leaves an
empty segment. -/
def follow (add : Trail → List Char → Trail) (t : Trail) : List (List Char) → Trail
  | [] => t
  | piece :: rest =>
    let isDouble := isDoubleDot (joined piece)
    if isDouble || isSingleDot (joined piece) then
      let t := if isDouble then t.up else t
      if rest.isEmpty then t.down "" else follow add t rest
    else follow add (add t piece) rest

end Trail

/-- The segments of a path that starts with a slash. -/
def segmentsOf (special : Bool) (s : List Char) : List String :=
  (Trail.empty.follow Trail.add (pieces special s.tail)).segments

/-! ## Authorities -/

/-- A text around its last at sign. -/
def splitLastAt? (s : List Char) : Option (List Char × List Char) :=
  match s.reverse.dropWhile (· ≠ '@') with
  | [] => none
  | _ :: before => some (before.reverse, (s.reverse.takeWhile (· ≠ '@')).reverse)

/-- The end of a host: the first colon outside brackets. -/
def splitHost (inside : Bool) : List Char → List Char × List Char
  | [] => ([], [])
  | c :: rest =>
    if c = ':' ∧ ¬ inside then ([], c :: rest)
    else
      let (host, behind) := splitHost (c == '[' || (inside && c != ']')) rest
      (c :: host, behind)

/-- The largest number of a service. -/
def maxPortNumber : Nat := 65535

/-- The number behind a host, and what is behind it: nothing, or a backslash and more. -/
def readPortNumber (acc : Option Nat) : List Char → Except UrlFault (Option Nat × List Char)
  | [] => .ok (acc, [])
  | c :: rest =>
    match Text.digit? c with
    | some d =>
      let n := acc.getD 0 * 10 + d
      if n ≤ maxPortNumber then readPortNumber (some n) rest else .error .invalidPortNumber
    | none => if c = '\\' then .ok (acc, c :: rest) else .error .invalidPortNumber

/-- The user name and the password before an at sign. An empty password is none. -/
def readUser (s : List Char) : String × Option String :=
  let password := (s.dropWhile (· ≠ ':')).tail
  (encoded userKeeps (s.takeWhile (· ≠ ':')),
    if password.isEmpty then none else some (encoded userKeeps password))

/-- The host of a scheme. A web address has one. -/
def readHost (special : Bool) (s : List Char) : Except UrlFault Host :=
  if special then
    if s.isEmpty then .error .emptyHost else Host.read s
  else Host.readOpaque s

/-- An authority, and what is left of it as the start of the path. An at sign with nothing before it
has a host behind it, unless the address ends there; `isLast` tells whether it ends behind the
authority. -/
def readAuthority (scheme : String) (isLast : Bool) (s : List Char) :
    Except UrlFault (Authority × List Char) := do
  if s = ['@'] ∧ ¬ isLast then throw .emptyHost
  let (credentials, rest) := (splitLastAt? s).getD ([], s)
  let (user, password) := readUser credentials
  let (hostText, behind) := splitHost false rest
  let host ← readHost (isSpecial scheme) hostText
  if host.isEmpty ∧ (user ≠ "" ∨ password ≠ none ∨ behind ≠ []) then throw .emptyHost
  let (number, left) ← readPortNumber none behind.tail
  return (⟨user, password, host, number.filter fun n ↦ usualPortNumber scheme ≠ some n⟩, left)

/-! ## Reading -/

/-- A text before a mark, and what is behind it, if it is there. -/
def splitAtMark (mark : Char) (s : List Char) : List Char × Option (List Char) :=
  match s.dropWhile (· ≠ mark) with
  | [] => (s, none)
  | _ :: rest => (s.takeWhile (· ≠ mark), some rest)

/-- The authority and the path behind the slashes of a scheme. The address goes on behind them if
`hasMore` holds. -/
def readHierarchy (scheme : String) (hasMore : Bool) (s : List Char) :
    Except UrlFault (Option Authority × UrlPath) := do
  let special := isSpecial scheme
  let behind := s.dropWhile fun c ↦ !isSlash special c
  let isLast := behind.isEmpty && !hasMore
  let (authority, left) ← readAuthority scheme isLast (s.takeWhile fun c ↦ !isSlash special c)
  let path := left ++ behind
  let rooted := match path with
    | [] => if special then ['/'] else []
    | c :: rest => if isSlash special c then c :: rest else '/' :: c :: rest
  let items := if rooted.isEmpty then [] else segmentsOf special rooted
  return (some authority, .segments items)

/-! ## Files -/

/-- A piece behind its first two characters, if they are those of a drive, with both. -/
def splitDrive? (piece : List Char) : Option (Char × Char × List Char) :=
  match piece.dropWhile isInnerBlank with
  | [] => none
  | letter :: rest =>
    match rest.dropWhile isInnerBlank with
    | [] => none
    | mark :: behind =>
      if isDrive (String.ofList [letter, mark]) then some (letter, mark, behind) else none

/-- The way down to what a piece of a file's path spells. At the start of the path, a drive is
written with a colon and is on the own machine. What follows the colon of a drive behind a tab or a
line break is a segment of its own, on the machine that the address names. -/
def Trail.addInFile (t : Trail) (piece : List Char) : Trail :=
  match t.above, splitDrive? piece with
  | [], some (letter, mark, behind) =>
    let drive := String.ofList [letter, ':']
    if (joined behind).isEmpty then ⟨[drive], true⟩
    else if mark = ':' ∧ behind.head?.any isInnerBlank then (t.down drive).add behind
    else t.add piece
  | _, _ => t.add piece

/-- The host and the path of a file. Empty segments at the start of a path do not count, unless
there are no others. -/
def filePlace (host : Host) (t : Trail) : Option Authority × UrlPath :=
  let named := t.segments.dropWhile (· == "")
  (some ⟨"", none, if t.onDrive then .name "" else host, none⟩,
    .segments (if named.isEmpty then [""] else named))

/-- A text behind the slash that it starts with. -/
def afterSlash? (s : List Char) : Option (List Char) :=
  match s.dropWhile isInnerBlank with
  | [] => none
  | c :: rest => if isSlash true c then some rest else none

/-- The host of a file, and its path. The host of the own machine is left out; a drive in its place
belongs to the path. The path starts behind the slash that ends the host, and with the slash when
there is no host. -/
def readFileHost (s : List Char) : Except UrlFault (Host × List Char) := do
  let text := s.takeWhile fun c ↦ !isSlash true c
  let behind := s.drop text.length
  let name := joined text
  if name.isEmpty ∨ isDrive (String.ofList name) then return (.name "", s)
  let host ← Host.read name
  return if host = .name "localhost" then (.name "", behind) else (host, behind.tail)

/-- The host and the path of a file. -/
def readFile (s : List Char) : Except UrlFault (Option Authority × UrlPath) := do
  let path := (afterSlash? s).getD s
  let (host, path) ← match afterSlash? s >>= afterSlash? with
    | some rest => readFileHost rest
    | none => .ok (.name "", path)
  return filePlace host (Trail.empty.follow Trail.addInFile (pieces true path))

/-! ## Addresses -/

/-- The authority and the path of a scheme. -/
def readBody (scheme : String) (hasMore : Bool) (s : List Char) :
    Except UrlFault (Option Authority × UrlPath) :=
  if scheme = "file" then readFile s
  else if isSpecial scheme then
    readHierarchy scheme hasMore ((joined s).dropWhile (isSlash true))
  else
    match joined s with
    | '/' :: '/' :: rest => readHierarchy scheme hasMore rest
    | '/' :: rest => .ok (none, .segments (segmentsOf false ('/' :: rest)))
    | text => .ok (none, .text (encoded isPlain text))

/-- The address that a text spells. -/
def read (text : String) : Except UrlFault Url :=
  let (whole, fragment) := splitAtMark '#' (trimmed text.toList)
  let (body, query) := splitAtMark '?' whole
  match splitScheme? body with
  | none => .error .relative
  | some (scheme, rest) =>
    match readBody scheme (query.isSome || fragment.isSome) rest with
    | .error fault => .error fault
    | .ok (authority, path) =>
      .ok {
        scheme := scheme
        authority := authority
        path := path
        query := query.map fun q ↦ encoded (queryKeeps (isSpecial scheme)) (joined q)
        fragment := fragment.map fun f ↦ encoded fragmentKeeps (joined f) }

/-- The address of a path on the same host, or for a file on the same drive. The path starts with a
slash and has neither query nor fragment; what the address has of them is dropped. -/
def withPath (u : Url) (path : String) : Except UrlFault Url :=
  match u.path with
  | .text _ => .error .opaqueBase
  | .segments items =>
    let found := pieces (isSpecial u.scheme) path.toList.tail
    let (authority, path) :=
      if u.scheme = "file" then
        let host := (u.authority.map (·.host)).getD (.name "")
        let drives := (items.take 1).filter isColonDrive
        filePlace host (Trail.follow Trail.addInFile ⟨drives, !drives.isEmpty⟩ found)
      else (u.authority, .segments (Trail.empty.follow Trail.add found).segments)
    .ok { u with authority := authority, path := path, query := none, fragment := none }

/-! ## Writing -/

/-- Segments, each behind a slash. -/
def segmentsText (items : List String) : String :=
  String.join (items.map ("/" ++ ·))

/-- The authority and the path. Without an authority, a dot keeps two slashes at the start of a path
from being taken for one. -/
def bodyText (u : Url) : String :=
  match u.authority, u.path with
  | some a, .segments items => a.toText ++ segmentsText items
  | some a, .text content => a.toText ++ content
  | none, .text content => content
  | none, .segments items =>
    if items.head? = some "" ∧ 1 < items.length then "/." ++ segmentsText items
    else segmentsText items

/-- The path and the query, which a request names. -/
def targetText (u : Url) : String :=
  let query := (u.query.map ("?" ++ ·)).getD ""
  match u.path with
  | .segments items => segmentsText items ++ query
  | .text content => content ++ query

/-- The address as text. -/
def toText (u : Url) : String :=
  let query := (u.query.map ("?" ++ ·)).getD ""
  let fragment := (u.fragment.map ("#" ++ ·)).getD ""
  u.scheme ++ ":" ++ u.bodyText ++ query ++ fragment

/-! ## Users in addresses -/

/-- The user and the password that an address names, when they are text. -/
def credentials? (u : Url) : Option (String × Option String) := do
  let authority ← u.authority
  let user ← Percent.decode? authority.user.toList
  let password := authority.password >>= fun p ↦ Percent.decode? p.toList
  if user = "" ∧ password = none then none else some (user, password)

/-- The address without user and password. -/
def anonymous (u : Url) : Url :=
  { u with authority := u.authority.map fun a ↦ { a with user := "", password := none } }

end Url

end SeriesAcl
