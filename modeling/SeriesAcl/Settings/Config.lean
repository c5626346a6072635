import SeriesAcl.Error.Basic
import SeriesAcl.Json.Decode
import SeriesAcl.Text.Unsigned

/-!
# Settings

How to reach the node: the settings come in layers, the defaults below a file, the file below the
environment, and all of them below what the command line says. A layer that does not mention a
setting leaves it as it is. See `SPEC_FULL.md`, section 10.3.
-/

namespace SeriesAcl

open Json (Decoder Fields)

/-- The settings in force (`SPEC_FULL.md` 10.3, `AdminConfig`). -/
structure Config where
  baseUrl : String
  user : Option String
  password : Option String
  timeoutMs : Nat
  rolePageSize : Nat
  deriving DecidableEq, Repr

/-- The settings of one layer, each of which it may leave out. -/
structure ConfigLayer where
  baseUrl : Option String
  user : Option String
  password : Option String
  timeoutMs : Option Nat
  rolePageSize : Option Nat
  deriving DecidableEq, Repr

namespace ConfigLayer

/-- A layer that says nothing. -/
def empty : ConfigLayer := ⟨none, none, none, none, none⟩

/-- An unsigned number in the environment, blanks at its ends aside. -/
def numberSetting (get : String → Option String) (key : String) : Except Error (Option Nat) :=
  match get key with
  | none => .ok none
  | some text =>
    match Text.readUnsigned (Text.trim text) with
    | .ok n => .ok (some n)
    | .error fault =>
      let reason := fault.message
      .error (Error.invalidConfig s!"{key}={text}: {reason}")

/-- The layer of the environment. -/
def ofEnvironment (get : String → Option String) : Except Error ConfigLayer := do
  let timeoutMs ← numberSetting get "SERIES_ACCESS_TIMEOUT_MS"
  let rolePageSize ← numberSetting get "SERIES_ACCESS_ROLE_PAGE"
  return {
    baseUrl := get "SERIES_ACCESS_URL"
    user := get "SERIES_ACCESS_USER"
    password := get "SERIES_ACCESS_PASSWORD"
    timeoutMs := timeoutMs
    rolePageSize := rolePageSize }

/-- The layer of a record. -/
def decode : Decoder ConfigLayer :=
  Decoder.record ["base_url", "user", "password", "request_timeout_ms", "role_page_size"]
    (ConfigLayer.mk <$> Fields.optional "base_url" Decoder.string
      <*> Fields.optional "user" Decoder.string
      <*> Fields.optional "password" Decoder.string
      <*> Fields.optional "request_timeout_ms" (Decoder.unsigned 64)
      <*> Fields.optional "role_page_size" (Decoder.unsigned 64))

/-- The record of a layer. -/
def toJson (l : ConfigLayer) : Json :=
  let number : Option Nat → Json := fun n ↦ (n.map Json.ofNat).getD .null
  .object [("base_url", .ofOption l.baseUrl), ("user", .ofOption l.user),
    ("password", .ofOption l.password), ("request_timeout_ms", number l.timeoutMs),
    ("role_page_size", number l.rolePageSize)]

end ConfigLayer

namespace Config

/-- The settings when nothing is said. -/
def default : Config := ⟨"http://127.0.0.1:8080", none, none, 30000, 100⟩

/-- The settings with a layer on top. -/
def merged (c : Config) (l : ConfigLayer) : Config where
  baseUrl := l.baseUrl.getD c.baseUrl
  user := l.user.or c.user
  password := l.password.or c.password
  timeoutMs := l.timeoutMs.getD c.timeoutMs
  rolePageSize := l.rolePageSize.getD c.rolePageSize

/-- The settings of a record; what it leaves out has its default. -/
def decode : Decoder Config :=
  Decoder.record ["base_url", "user", "password", "request_timeout_ms", "role_page_size"]
    (Config.mk <$> Fields.withDefault "base_url" Decoder.string default.baseUrl
      <*> Fields.optional "user" Decoder.string
      <*> Fields.optional "password" Decoder.string
      <*> Fields.withDefault "request_timeout_ms" (Decoder.unsigned 64) default.timeoutMs
      <*> Fields.withDefault "role_page_size" (Decoder.unsigned 64) default.rolePageSize)

/-- The record of the settings. -/
def toJson (c : Config) : Json :=
  .object [("base_url", .string c.baseUrl), ("user", .ofOption c.user),
    ("password", .ofOption c.password), ("request_timeout_ms", .ofNat c.timeoutMs),
    ("role_page_size", .ofNat c.rolePageSize)]

/-- The settings in a file. -/
def ofFile (read : String → Except String String) (path : String) : Except Error Config :=
  match read path with
  | .error reason => .error (Error.configUnreadable path reason)
  | .ok text => (Decoder.ofText decode text).mapError Error.invalidJson

/-- The settings of the file that the environment names, if it names one, and of the environment
itself (`SPEC_FULL.md` 10.3). -/
def load (get : String → Option String) (read : String → Except String String) :
    Except Error Config := do
  let base ← match (get "SERIES_ACCESS_CONFIG").map Text.trim with
    | none => .ok default
    | some "" => .ok default
    | some path => ofFile read path
  return base.merged (← ConfigLayer.ofEnvironment get)

/-- Whether the settings can be used. -/
def validate (c : Config) : Except Error Unit :=
  if Text.trim c.baseUrl = "" then .error (Error.invalidConfig "base_url must not be empty")
  else if c.rolePageSize = 0 then
    .error (Error.invalidConfig "role_page_size must be positive")
  else .ok ()

end Config

end SeriesAcl
