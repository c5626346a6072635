/-!
# Notes

The banners that the editors show to their user. A note has a key, which names its text, and belongs
to a context; a note without a duration stands until it is taken down. Editors post to a sink, which
gives every note an id. See `SPEC_FULL.md`, section 7.
-/

namespace SeriesAcl

/-- How serious a note is. -/
inductive Level where
  | info
  | warning
  | error
  deriving DecidableEq, Repr

/-- The name of a level. -/
def Level.name : Level → String
  | .info => "info"
  | .warning => "warning"
  | .error => "error"

/-- The level with a name. -/
def Level.ofName? (name : String) : Option Level :=
  [Level.info, .warning, .error].find? fun l ↦ l.name == name

/-- A banner; its duration is in milliseconds (`SPEC_FULL.md` 7). -/
structure Note where
  level : Level
  key : String
  context : String
  duration : Option Nat
  deriving DecidableEq, Repr

/-- What a sink knows a note by. -/
structure NoteId where
  number : Nat
  deriving DecidableEq, Repr

namespace Note

/-- A warning that stands until it is taken down. -/
def warning (key context : String) : Note := ⟨.warning, key, context, none⟩

/-- A message that disappears after a number of milliseconds. -/
def info (key context : String) (duration : Nat) : Note := ⟨.info, key, context, some duration⟩

/-- The context of the access list. -/
def aclContext : String := "series-acl"

/-- The context of the theme. -/
def themeContext : String := "series-theme"

/-- The context of the lock of one series. -/
def lockContext (series : String) : String := aclContext ++ "-" ++ series

/-- Some row is incomplete, or there is none. -/
def invalidRules : String := "INVALID_ACL_RULES"

/-- Rights are missing. -/
def missingRules : String := "MISSING_ACL_RULES"

/-- No role may both read and write. -/
def missingReadWrite : String := "SERIES_ACL_MISSING_READWRITE_ROLE"

/-- The access list is locked. -/
def listLocked : String := "SERIES_ACL_LOCKED"

/-- The access list was saved. -/
def listSaved : String := "SAVED_ACL_RULES"

/-- Events keep their theme until they are processed again. -/
def reprocessEvents : String := "SERIES_THEME_REPROCESS_EXISTING_EVENTS"

end Note

/-- Where notes are posted and taken down (`SPEC_FULL.md` 2, `Notifications`). -/
class NoteSink (ν : Type) where
  /-- Post a note and learn its id. -/
  add : Note → ν → NoteId × ν
  /-- Take down a note of a context; says whether it stood there. -/
  remove : NoteId → String → ν → Bool × ν

end SeriesAcl
