import SeriesAcl.Json.Decode

/-!
# Access entries

The entries of a series' access list: each one allows or denies one action to one role. The list is
flat; its order is kept, and nothing keeps an entry from standing in it twice. See `SPEC_FULL.md`,
section 3.1.
-/

namespace SeriesAcl

/-- One entry of an access list (`SPEC_FULL.md` 3.1, `AccessControlEntry`). -/
structure Entry where
  role : String
  action : String
  allow : Bool
  deriving DecidableEq, Repr

/-! The actions with a meaning of their own. -/

namespace Action

/-- Reading the series. -/
def read : String := "read"

/-- Changing the series. -/
def write : String := "write"

/-- Watching on the portal. -/
def castView : String := "cast-view"

/-- Being listed on the portal. -/
def castDiscover : String := "cast-discover"

/-- Downloading from the portal. -/
def castDownload : String := "cast-download"

/-- Annotating on the portal. -/
def castAnnotate : String := "cast-annotate"

end Action

namespace Entry

/-- An entry that allows an action. -/
def allowed (role action : String) : Entry := ⟨role, action, true⟩

/-- An entry that denies an action. -/
def denied (role action : String) : Entry := ⟨role, action, false⟩

/-- The order of entries: by action, then denial before permission, then by role. -/
def compare (a b : Entry) : Ordering :=
  (Ord.compare a.action b.action).then
    ((Ord.compare a.allow b.allow).then (Ord.compare a.role b.role))

/-- A list of entries in order. -/
def sort (entries : List Entry) : List Entry :=
  entries.mergeSort fun a b ↦ (compare a b).isLE

/-- The record of an entry (`SPEC_FULL.md` 3.1). -/
def toJson (e : Entry) : Json :=
  .object [("action", .string e.action), ("allow", .bool e.allow), ("role", .string e.role)]

/-- The entry of a record; the truth value may stand in its loose form (`SPEC_FULL.md` 3.1). -/
def decode : Json.Decoder Entry :=
  Json.Decoder.record ["action", "allow", "role"]
    ((fun action allow role ↦ ⟨role, action, allow⟩)
      <$> Json.Fields.required "action" Json.Decoder.string
      <*> Json.Fields.required "allow" Json.Decoder.truth
      <*> Json.Fields.required "role" Json.Decoder.string)

/-- The grants of a list: the roles and actions of the entries that allow. -/
def grants (entries : List Entry) : List (String × String) :=
  (entries.filter (·.allow)).map fun e ↦ (e.role, e.action)

end Entry

end SeriesAcl
