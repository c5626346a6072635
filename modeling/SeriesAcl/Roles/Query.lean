import SeriesAcl.Directory.Resource
import SeriesAcl.Error.Basic
import SeriesAcl.Text.Blank

/-!
# Role queries

What is asked of the node for a page of roles. A search goes into the filter and always starts at
the first role. See `SPEC_FULL.md`, section 6.
-/

namespace SeriesAcl

open Json (Decoder Fields)

/-- A role with the label it is shown by. -/
structure RoleEntry where
  name : String
  value : Option String
  deriving DecidableEq, Repr

namespace RoleEntry

/-- The label of a role, which is its name when it has no other. -/
def label (r : RoleEntry) : String :=
  r.value.getD r.name

/-- The record of a role. -/
def toJson (r : RoleEntry) : Json :=
  .object [("name", .string r.name), ("value", .ofOption r.value)]

/-- The role of a record. -/
def decode : Decoder RoleEntry :=
  Decoder.record ["name", "value"]
    (RoleEntry.mk <$> Fields.required "name" Decoder.string
      <*> Fields.optional "value" Decoder.string)

/-- The roles in an answer of the node: a list of records, or an object from names to labels. -/
def listOf : Json → Except Error (List RoleEntry)
  | .array items =>
    (Decoder.ofValue (Decoder.list decode) (.array items)).mapError Error.invalidJson
  | .object members =>
    .ok ((members.filter fun m ↦ !Resource.isBookkeeping m.1).map fun m ↦ ⟨m.1, m.2.asString?⟩)
  | other => .error (Error.unexpectedPayload "invalid_roles" "roles" other.compact)

end RoleEntry

/-- A query for roles (`SPEC_FULL.md` 6, `RoleQuery`). -/
structure RoleQuery where
  limit : Nat
  offset : Nat
  filter : String
  deriving DecidableEq, Repr

namespace RoleQuery

/-- The filter for the roles of access lists. -/
def targetFilter : String := "role_target:ACL"

/-- What stands before a name in the filter. -/
def nameMark : String := "role_name:"

/-- The text that a search looks for; a blank search is none. -/
def searchText (search : Option String) : Option String :=
  (search.map Text.trim).filter fun s ↦ s ≠ ""

/-- The query for a page of roles, narrowed by a search (`SPEC_FULL.md` 6). -/
def make (limit offset : Nat) (search : Option String) : RoleQuery :=
  match searchText search with
  | some name => ⟨limit, 0, nameMark ++ name ++ "," ++ targetFilter⟩
  | none => ⟨limit, offset, targetFilter⟩

/-- The parameters of a query (`SPEC_FULL.md` 6). -/
def params (q : RoleQuery) : List (String × String) :=
  [("limit", toString q.limit), ("offset", toString q.offset), ("filter", q.filter)]

end RoleQuery

end SeriesAcl
