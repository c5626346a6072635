import SeriesAcl.Access.Entry
import SeriesAcl.Access.Role
import SeriesAcl.Text.Search

/-!
# Templates

The built-in access templates, a fixed catalog of six, and the sentinel for lists that follow none
of them. A template grants to one role; the role of the organization template holds a placeholder
for the organization of the caller. See `SPEC_FULL.md`, section 3.3.
-/

namespace SeriesAcl

/-- What a template grants on top of its own entries (`SPEC_FULL.md` 3.3, `extras`). -/
structure Flags where
  download : Bool
  annotate : Bool
  deriving DecidableEq, Repr

namespace Flags

/-- Nothing on top. -/
def none : Flags := ⟨false, false⟩

/-- The record of the flags. -/
def toJson (f : Flags) : Json :=
  .object [("download", .bool f.download), ("annotate", .bool f.annotate)]

end Flags

/-- An access template (`SPEC_FULL.md` 3.3). The sentinel for custom lists has no role and no
entries. -/
structure Template where
  id : Nat
  key : String
  name : String
  description : String
  role : Option String
  entries : List Entry
  deriving DecidableEq, Repr

namespace Template

/-- The placeholder for the organization in the role of the organization template
(`SPEC_FULL.md` 3.3, `ORG_DOMAIN_PLACEHOLDER`). -/
def orgPlaceholder : String := "<org-domain>"

/-- The role of the organization template. -/
def orgRole : String := "ROLE_AAI_ORG_<org-domain>_MEMBER"

/-- The id of the sentinel. -/
def customId : Nat := 7

/-- A text in capital letters A to Z. -/
def capitals (s : String) : String :=
  String.ofList (s.toList.map Char.toUpper)

/-- A template with the names of its texts made from its key. -/
def make (id : Nat) (key : String) (role : Option String) (actions : List (String × Bool)) :
    Template where
  id := id
  key := key
  name := "SWITCHCAST.ACL.TEMPLATE." ++ capitals key ++ ".NAME"
  description := "SWITCHCAST.ACL.TEMPLATE." ++ capitals key ++ ".DESCRIPTION"
  role := role
  entries :=
    match role with
    | some r => actions.map fun (action, allow) ↦ ⟨r, action, allow⟩
    | none => []

/-- The actions of the templates for listed series. -/
def listedActions : List (String × Bool) :=
  [(Action.castView, true), (Action.castDiscover, true), (Action.read, false),
    (Action.write, false)]

/-- The actions of the template for series that only learning management systems show. -/
def lmsActions : List (String × Bool) :=
  [(Action.castView, true), (Action.read, true), (Action.write, true)]

/-- The actions of the template for series that are seen but not listed. -/
def hiddenActions : List (String × Bool) :=
  [(Action.castView, true), (Action.castDiscover, false), (Action.read, false),
    (Action.write, false)]

/-- The built-in templates, in the order in which lists are matched against them
(`SPEC_FULL.md` 3.3, `catalog`). -/
def catalog : List Template :=
  [make 1 "public" (some Role.anonymous) listedActions,
    make 2 "federation" (some Role.federationMember) listedActions,
    make 3 "organization" (some orgRole) listedActions,
    make 4 "private" (some Role.privateMember) listedActions,
    make 5 "lms" (some Role.externalApplication) lmsActions,
    make 6 "hidden" (some Role.anonymous) hiddenActions]

/-- The sentinel for custom lists (`SPEC_FULL.md` 3.3, `custom`). -/
def custom : Template :=
  make customId "custom" none []

/-- Whether a template is the sentinel. -/
def isCustom (t : Template) : Bool :=
  t.id == customId

/-- The template with an id, the sentinel included (`SPEC_FULL.md` 3.3, `by_id`). -/
def byId? (id : Nat) : Option Template :=
  if id = customId then some custom else catalog.find? fun t ↦ t.id == id

/-- The template with a key, the sentinel included (`SPEC_FULL.md` 3.3, `by_key`). -/
def byKey? (key : String) : Option Template :=
  if key = custom.key then some custom else catalog.find? fun t ↦ t.key == key

/-- A role with its first placeholder replaced by the organization (`SPEC_FULL.md` 3.3). For a
caller without an organization the placeholder stays. -/
def substituteOrg (role : String) (org : Option String) : String :=
  match org with
  | some o => Text.replaceFirst orgPlaceholder o role
  | none => role

/-- The role of a template for a caller (`SPEC_FULL.md` 3.3, `role_for`). -/
def roleFor (t : Template) (org : Option String) : Option String :=
  t.role.map fun role ↦ substituteOrg role org

/-- The entries of the flags for a template role. -/
def flagEntries (role : String) (flags : Flags) : List Entry :=
  (if flags.download then [Entry.allowed role Action.castDownload] else []) ++
    (if flags.annotate then [Entry.allowed role Action.castAnnotate] else [])

/-- The entries of a template for a caller: its own, then those of the flags (`SPEC_FULL.md` 3.3,
`expand`). -/
def expand (t : Template) (org : Option String) (flags : Flags) : List Entry :=
  let extra := match t.role with
    | some role => flagEntries role flags
    | none => []
  (t.entries ++ extra).map fun e ↦ { e with role := substituteOrg e.role org }

/-- The record of a template. -/
def toJson (t : Template) : Json :=
  .object [("id", .ofNat t.id), ("key", .string t.key), ("name", .string t.name),
    ("description", .string t.description), ("role", .ofOption t.role),
    ("acls", .array (t.entries.map Entry.toJson))]

end Template

end SeriesAcl
