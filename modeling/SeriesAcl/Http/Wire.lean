import SeriesAcl.Http.Message
import SeriesAcl.Text.Blank

/-!
# Messages on the wire

Requests and responses as the bytes of HTTP/1.1. Every request asks for the connection to be closed
behind the response, so a response is all that comes until then. Its text is whole when it has the
announced length, or when its last chunk has come.
-/

namespace SeriesAcl.Wire

/-! ## Requests -/

/-- The end of a line. -/
def lineEnd : String := "\r\n"

/-- A header. -/
def header (name value : String) : String :=
  name ++ ": " ++ value ++ lineEnd

/-- A header that may be absent. -/
def header? (name : String) (value : Option String) : String :=
  (value.map (header name)).getD ""

/-- The host that a request names. -/
def hostText (u : Url) : String :=
  match u.authority with
  | none => ""
  | some a => a.host.toText ++ (a.portNumber.map fun n ↦ ":" ++ toString n).getD ""

/-- A request as it is sent. -/
def ofRequest (r : Request) : String :=
  r.method.name ++ " " ++ r.url.targetText ++ " HTTP/1.1" ++ lineEnd ++
    header "host" (hostText r.url) ++ header "accept" "*/*" ++
    header? "authorization" r.authorization ++ header? "cookie" r.cookie ++
    header? "content-type" r.contentType ++
    header? "content-length" (r.form.map fun text ↦ toString text.utf8ByteSize) ++
    header "connection" "close" ++ lineEnd ++ r.form.getD ""

/-! ## Responses -/

/-- Bytes as characters, one by one. -/
def narrow (bytes : List UInt8) : List Char :=
  bytes.map fun b ↦ Char.ofNat b.toNat

/-- The bytes before the first end of a line, and those behind it. -/
def splitLine : List UInt8 → Option (List UInt8 × List UInt8)
  | [] => none
  | 13 :: 10 :: rest => some ([], rest)
  | b :: rest => (splitLine rest).map fun (line, behind) ↦ (b :: line, behind)

/-- What splitting a line off leaves is shorter. -/
theorem length_of_splitLine {bytes line rest : List UInt8}
    (h : splitLine bytes = some (line, rest)) : rest.length < bytes.length := by
  fun_induction splitLine bytes generalizing line with
  | case1 => simp at h
  | case2 rest' =>
    simp only [Option.some.injEq, Prod.mk.injEq] at h
    obtain ⟨-, rfl⟩ := h
    simp only [List.length_cons]
    omega
  | case3 b rest' _ ih =>
    obtain ⟨⟨line', behind⟩, hsplit, heq⟩ := Option.map_eq_some_iff.1 h
    simp only [Prod.mk.injEq] at heq
    obtain ⟨-, rfl⟩ := heq
    have := ih hsplit
    simp only [List.length_cons]
    omega

/-- The name of a header in lower case, and its value without blanks around it. -/
def readHeader (line : List Char) : String × String :=
  let value := (line.dropWhile (· ≠ ':')).tail
  (String.ofList ((line.takeWhile (· ≠ ':')).map Char.toLower), Text.trim (String.ofList value))

/-- The headers up to the empty line, and what is behind it. -/
def readHeaders (bytes : List UInt8) : Option (List (String × String) × List UInt8) :=
  match _h : splitLine bytes with
  | none => none
  | some ([], rest) => some ([], rest)
  | some (line, rest) =>
    (readHeaders rest).map fun (headers, body) ↦ (readHeader (narrow line) :: headers, body)
termination_by bytes.length
decreasing_by exact length_of_splitLine _h

/-- The status in the first line of a response. -/
def readStatus (line : List Char) : Option Nat :=
  match Text.after? "HTTP/1.".toList line with
  | none => none
  | some version => Host.readDigits? 10 0 (((version.dropWhile (· ≠ ' ')).tail).takeWhile (· ≠ ' '))

/-- The name and the value of a cookie that a response sets. -/
def readCookie (value : String) : Option (String × String) :=
  Text.splitFirst? "=" (Text.before ";" value)

/-- Chunks put together, if the last one, which is empty, has come. -/
def joinChunks (bytes : List UInt8) : Option (List UInt8) :=
  match _h : splitLine bytes with
  | none => none
  | some (line, rest) =>
    match Host.readDigits? 16 0 ((narrow line).takeWhile fun c ↦ (Percent.hexValue? c).isSome) with
    | none => none
    | some 0 => some []
    | some size =>
      if rest.length < size + 2 then none
      else (joinChunks (rest.drop (size + 2))).map (rest.take size ++ ·)
termination_by bytes.length
decreasing_by
  have := length_of_splitLine _h
  simp only [List.length_drop]
  omega

/-- The bytes of a text, unless it broke off. -/
def readBody (headers : List (String × String)) (bytes : List UInt8) : Option (List UInt8) :=
  if Dict.lookup "transfer-encoding" headers = some "chunked" then joinChunks bytes
  else
    match (Dict.lookup "content-length" headers).bind fun n ↦ Host.readDigits? 10 0 n.toList with
    | none => some bytes
    | some size => if bytes.length < size then none else some (bytes.take size)

/-- The text of bytes; bytes that are no text leave the mark for that. -/
def textOf (bytes : List UInt8) : String :=
  (String.fromUTF8? bytes.toByteArray).getD "\uFFFD"

/-- The response that the bytes of a connection hold, if they hold one. -/
def toResponse? (bytes : List UInt8) : Option Response := do
  let (first, rest) ← splitLine bytes
  let status ← readStatus (narrow first)
  let (headers, body) ← readHeaders rest
  return {
    status := status
    cookies := headers.filterMap fun (name, value) ↦
      if name = "set-cookie" then readCookie value else none
    body := if Response.isBare status then some "" else (readBody headers body).map textOf }

end SeriesAcl.Wire
