import SeriesAcl.Account.User
import SeriesAcl.Text.Search

/-!
# Resource lists

The named lists of keys and labels that the node serves, and the user directory, which comes in the
same form. Keys that start with a dollar sign are bookkeeping. See `SPEC_FULL.md`, section 6.
-/

namespace SeriesAcl

/-- Keys with their labels. -/
abbrev ResourceList := Dict String

namespace Resource

/-- The labels of the actions. -/
def aclActions : String := "ACL.ACTIONS"

/-- The names of the themes. -/
def themeNames : String := "THEMES.NAME"

/-- The descriptions of the themes. -/
def themeDescriptions : String := "THEMES.DESCRIPTION"

/-- The roles of the user directory. -/
def directoryUsers : String := "USERS.SWITCH.ROLE"

/-- The known roles. -/
def roles : String := "ROLES"

/-- Whether a key is bookkeeping. -/
def isBookkeeping (key : String) : Bool :=
  Text.startsWith "$" key

/-- The label that a value stands for: a text itself, nothing for null, else its compact text. -/
def label : Json → String
  | .string s => s
  | .null => ""
  | value => value.compact

/-- The list that a value holds; a value other than an object holds nothing (`SPEC_FULL.md` 6,
`resource_list`). -/
def listOf : Json → ResourceList
  | .object members =>
    Dict.ofList ((members.filter fun m ↦ !isBookkeeping m.1).map fun m ↦ (m.1, label m.2))
  | _ => Dict.empty

/-- The tag of a member whose value is a role. -/
def tag? : String × Json → Option UserTag
  | (key, .string role) => some ⟨key, key, role⟩
  | _ => none

/-- The user directory that a value holds: a tag for each member whose value is a text
(`SPEC_FULL.md` 6, `switch_users`). -/
def tagsOf : Json → List UserTag
  | .object members => members.filterMap tag?
  | _ => []

end Resource

end SeriesAcl
