import SeriesAcl.Json.Node
import SeriesAcl.Text.Blank

/-!
# Errors

What can go wrong, as the administration node and its console report it: a kind, a stable code for
machines and a message for people. The causes that this library raises are the functions of this
module, so their wording stands in one place. See `SPEC_FULL.md`, sections 7 and 10.2.
-/

namespace SeriesAcl

/-- The kinds of error (`SPEC_FULL.md` 10.2). -/
inductive ErrorKind where
  | userInput
  | notFound
  | conflict
  | auth
  | remote
  | decode
  | io
  | internal
  deriving DecidableEq, Repr

/-- An error with its code and message (`SPEC_FULL.md` 7, `AppError`). -/
structure Error where
  kind : ErrorKind
  code : String
  message : String
  deriving DecidableEq, Repr

namespace ErrorKind

/-- Every kind, in declared order. -/
def all : List ErrorKind :=
  [.userInput, .notFound, .conflict, .auth, .remote, .decode, .io, .internal]

/-- The name of a kind in records. -/
def name : ErrorKind → String
  | .userInput => "user_input"
  | .notFound => "not_found"
  | .conflict => "conflict"
  | .auth => "auth"
  | .remote => "remote"
  | .decode => "decode"
  | .io => "io"
  | .internal => "internal"

/-- The kind with a name. -/
def ofName? (name : String) : Option ErrorKind :=
  all.find? fun kind ↦ kind.name == name

/-- The HTTP status that goes with a kind. -/
def status : ErrorKind → Nat
  | .userInput => 400
  | .notFound => 404
  | .conflict => 409
  | .auth => 401
  | .remote => 502
  | .decode => 422
  | .io => 503
  | .internal => 500

end ErrorKind

namespace Error

/-- The error in one line. -/
def display (e : Error) : String :=
  e.code ++ ": " ++ e.message

/-- The HTTP status that goes with an error. -/
def status (e : Error) : Nat :=
  e.kind.status

/-- The kind of error that an HTTP status stands for (`SPEC_FULL.md` 6). -/
def kindOfStatus (status : Nat) : ErrorKind :=
  if status = 400 then .userInput
  else if status = 401 ∨ status = 403 then .auth
  else if status = 404 then .notFound
  else if status = 409 then .conflict
  else .remote

/-- The node answered with an HTTP status other than success. A blank body gives no message. -/
def ofStatus (status : Nat) (body : String) : Error where
  kind := kindOfStatus status
  code := s!"http_{status}"
  message :=
    if Text.trim body = "" then s!"backend returned HTTP {status}" else Text.trim body

/-- An operation of the node failed. -/
def operationFailed (operation : String) : Error :=
  ⟨.remote, "http_500", s!"{operation} failed"⟩

/-- The node does not know a series. -/
def seriesNotFound (series : String) : Error :=
  ⟨.notFound, "http_404", s!"series {series} not found"⟩

/-- The node does not know a managed list. -/
def managedAclNotFound (id : Int) : Error :=
  ⟨.notFound, "http_404", s!"acl {id} not found"⟩

/-- A JSON text or value is not what was asked for. -/
def invalidJson : Json.Fault → Error
  | .malformed => ⟨.decode, "invalid_json", "malformed document"⟩
  | .notTruth text => ⟨.decode, "invalid_json", s!"invalid allow value: {text}"⟩

/-- The node sent a value of an unexpected kind in the place of `what`. -/
def unexpectedPayload (code what payload : String) : Error :=
  ⟨.decode, code, s!"unexpected {what} payload: {payload}"⟩

/-- An answer broke off. -/
def invalidBody : Error :=
  ⟨.decode, "invalid_body", "error decoding response body"⟩

/-- A request did not reach the node. -/
def transport (url : String) : Error :=
  ⟨.io, "transport", s!"error sending request for url ({url})"⟩

/-- A request could not be formed for an address. -/
def unsupportedScheme (url : String) : Error :=
  ⟨.io, "transport", s!"builder error for url ({url})"⟩

/-- The address of the node cannot be read. -/
def invalidBaseUrl (url reason : String) : Error :=
  ⟨.userInput, "invalid_url", s!"invalid base URL {url}: {reason}"⟩

/-- A path cannot be joined to the address of the node. -/
def invalidPath (path reason : String) : Error :=
  ⟨.userInput, "invalid_url", s!"{path}: {reason}"⟩

/-- A setting cannot be used. -/
def invalidConfig (message : String) : Error :=
  ⟨.userInput, "invalid_config", message⟩

/-- A settings file cannot be read. -/
def configUnreadable (path reason : String) : Error :=
  ⟨.io, "config_read", s!"{path}: {reason}"⟩

/-- No built-in template has an id. -/
def unknownTemplateId (id : Nat) : Error :=
  ⟨.userInput, "unknown_template", s!"no ACL template with id {id}"⟩

/-- No built-in template has a key. -/
def unknownTemplateKey (key : String) : Error :=
  ⟨.userInput, "unknown_template", s!"no ACL template named {key}"⟩

/-- The access list of a series is locked. -/
def seriesLocked (series : String) : Error :=
  ⟨.conflict, "series_locked", s!"access of series {series} is locked"⟩

/-- A list of rows was not saved. -/
def listNotSaved (rulesValid hasRights : Bool) : Error :=
  ⟨.userInput, "invalid_acl", s!"ACL not saved: rules_valid={rulesValid} has_rights={hasRights}"⟩

/-- A feed pattern lacks a marker. -/
def invalidFeedPattern (marker pattern : String) : Error :=
  ⟨.decode, "invalid_feed_pattern", s!"no {marker} in {pattern}"⟩

/-- No metadata catalog has a flavor. -/
def unknownCatalog (flavor : String) : Error :=
  ⟨.notFound, "unknown_catalog", s!"no metadata catalog {flavor}"⟩

/-- A catalog lacks a field. -/
def unknownField (flavor field : String) : Error :=
  ⟨.notFound, "unknown_field", s!"{flavor} has no field {field}"⟩

/-- The themes of a series have not been loaded. -/
def themesNotLoaded : Error :=
  ⟨.conflict, "themes_not_loaded", "themes were not loaded for this series"⟩

/-- A command line flag lacks its value. -/
def missingValue (flag : String) : Error :=
  ⟨.userInput, "missing_value", s!"{flag} requires a value"⟩

/-- A command line flag has a value that cannot be used. -/
def invalidValue (flag value reason : String) : Error :=
  ⟨.userInput, "invalid_value", s!"{flag} {value}: {reason}"⟩

/-- A command line flag is not known. -/
def unknownFlag (flag : String) : Error :=
  ⟨.userInput, "unknown_flag", s!"Unrecognized argument: {flag}"⟩

/-- A command is not known. -/
def unknownCommand (command : String) : Error :=
  ⟨.userInput, "unknown_command", s!"unknown command: {command}"⟩

/-- A command lacks an argument. -/
def missingArgument (message : String) : Error :=
  ⟨.userInput, "missing_argument", message⟩

/-- A command has one argument too many. -/
def unexpectedArgument (argument : String) : Error :=
  ⟨.userInput, "unexpected_argument", s!"unexpected argument: {argument}"⟩

/-- Something else went wrong. -/
def internalError (message : String) : Error :=
  ⟨.internal, "internal_error", message⟩

end Error

end SeriesAcl
