import SeriesAcl.Access.Document
import SeriesAcl.Access.Validity
import SeriesAcl.Account.User
import SeriesAcl.Editing.Desk
import SeriesAcl.Roles.Fetch
import SeriesAcl.Text.Lowercase

/-!
# The access step of the wizard

The access list of a new series. Nothing is saved here: the wizard keeps the rows, built from the
template that is selected, and hands out their list when the series is created. See `SPEC_FULL.md`,
section 9.3.
-/

namespace SeriesAcl

/-- The state of the access step (`SPEC_FULL.md` 9.3, `NewSeriesAccess`). The remembered template is
the one that was last chosen by id. -/
structure Wizard where
  user : User
  rows : List Policy
  selected : Option Template
  remembered : Option Nat
  flags : Flags
  tags : List UserTag
  users : List UserTag
  roles : RoleDirectory
  actions : ResourceList
  hasInvalidRow : Bool
  hasRights : Bool
  rightsNotice : Slot
  rulesNotice : Slot
  missingNotice : Slot

namespace Wizard

/-- The row of the creator, who may read and write. -/
def ownRow (w : Wizard) : Option Policy :=
  w.user.ownRole.map fun role ↦ Policy.readWrite role Policy.wizardField

/-- The rows of a template for a user, with the creator's row in front unless the template has one
for the same role (`SPEC_FULL.md` 9.3, `change_base_acl`). -/
def templateRows (own : Option Policy) (template : Template) (org : Option String)
    (flags : Flags) : List Policy :=
  let rows := Policy.group (template.expand org flags) Policy.wizardField
  match own with
  | none => rows
  | some row => if (Policy.find? rows (row.role.getD "")).isNone then row :: rows else rows

/-- The wizard with the rows of its selected template; without one the rows stay. -/
def applySelected (w : Wizard) : Wizard :=
  match w.selected with
  | none => w
  | some template =>
    { w with
      remembered := some template.id
      rows := templateRows w.ownRow template w.user.homeOrg w.flags }

/-- Back to the defaults of the organization (`SPEC_FULL.md` 9.3, `reset`). -/
def reset (w : Wizard) : Wizard :=
  applySelected { w with
    tags := []
    rows := w.ownRow.toList
    selected := w.user.org.defaultTemplate
    remembered := w.user.org.defaultTemplate.map (·.id)
    flags := w.user.org.defaultFlags }

/-- A wizard for a user, at the defaults of the organization (`SPEC_FULL.md` 9.3, `new`). -/
def make (user : User) (rolePage : Nat) : Wizard :=
  reset {
    user := user
    rows := []
    selected := none
    remembered := none
    flags := Flags.none
    tags := []
    users := []
    roles := RoleDirectory.make rolePage .firstPage
    actions := Dict.empty
    hasInvalidRow := false
    hasRights := false
    rightsNotice := Slot.empty
    rulesNotice := Slot.empty
    missingNotice := Slot.empty }

/-- Select a template by id (`SPEC_FULL.md` 9.3, `select_template`). -/
def selectTemplate (w : Wizard) (id : Nat) : Except Error Wizard :=
  match Template.byId? id with
  | none => .error (Error.unknownTemplateId id)
  | some template => .ok { w with remembered := some template.id, selected := some template }

/-- The wizard with its flags set. -/
def setFlags (w : Wizard) (flags : Flags) : Wizard :=
  { w with flags := flags }

/-- Build the rows from the selected template, or from the remembered one unless `preset`
(`SPEC_FULL.md` 9.3, `change_base_acl`). -/
def applyTemplate (w : Wizard) (preset : Bool) : Except Error Wizard :=
  match preset, w.remembered with
  | false, some id =>
    match Template.byId? id with
    | none => .error (Error.unknownTemplateId id)
    | some template => .ok (applySelected { w with selected := some template })
  | _, _ => .ok w.applySelected

/-- The wizard with its rows changed, and nothing else. -/
def editRows (w : Wizard) (f : List Policy → List Policy) : Wizard :=
  { w with rows := f w.rows }

/-- The wizard with an empty row at the end (`SPEC_FULL.md` 9.3, `add_policy`). -/
def addRow (w : Wizard) : Wizard :=
  w.editRows (· ++ [Policy.blank none Policy.wizardField])

/-- The wizard without the last row that is one with `target` (`SPEC_FULL.md` 9.3,
`delete_policy`). -/
def deleteRow (w : Wizard) (target : Policy) : Wizard :=
  w.editRows fun rows ↦ Policy.removeLast rows target

/-- Give a user of the directory a row of their own (`SPEC_FULL.md` 9.3, `add_user_tag`). -/
def addTag (w : Wizard) (tag : UserTag) : Wizard :=
  { w with
    rows := w.rows ++ [Policy.readWrite tag.value Policy.wizardField]
    tags := if tag ∈ w.tags then w.tags else w.tags ++ [tag] }

/-- Take away the last row that gave a user of the directory reading and writing
(`SPEC_FULL.md` 9.3, `remove_user_tag`). -/
def removeTag (w : Wizard) (tag : UserTag) : Wizard :=
  let w := w.deleteRow (Policy.readWrite tag.value Policy.wizardField)
  { w with tags := w.tags.filter fun t ↦ t ≠ tag }

/-- The users of the directory whose name has the text in it, letter case aside (`SPEC_FULL.md` 9.3,
`load_tags`). -/
def searchUsers (w : Wizard) (text : String) : List UserTag :=
  w.users.filter fun u ↦ Text.contains (Text.lower text) (Text.lower u.name)

/-- Whether there are labels for the actions. -/
def hasActions (w : Wizard) : Bool :=
  !w.actions.isEmpty

/-- The list to submit with the new series (`SPEC_FULL.md` 9.3, `access_request`). -/
def request (w : Wizard) : AclDocument :=
  ⟨Policy.toEntries w.rows⟩

variable {σ ν : Type} [AdminNode σ] [NoteSink ν]

/-- Whether the step may be left (`SPEC_FULL.md` 9.3, `is_valid`). The warning about missing rights
follows the answer. -/
def isValid (w : Wizard) (notes : ν) : Bool × Wizard × ν :=
  let check := Policy.check w.rows .strict
  let (slot, notes) :=
    if check.hasRights then w.rightsNotice.clear notes
    else w.rightsNotice.ensure (Note.warning Note.missingReadWrite Note.aclContext) notes
  (check.isValid,
    { w with
      hasInvalidRow := !check.rulesValid
      hasRights := check.hasRights
      rightsNotice := slot },
    notes)

/-- Bring the warnings about rows in line with the last answer of `isValid` (`SPEC_FULL.md` 9.3,
`check_notifications`). -/
def showWarnings (w : Wizard) (notes : ν) : Wizard × ν :=
  let (rules, notes) := w.rulesNotice.toggle w.hasInvalidRow
    (Note.warning Note.invalidRules Note.aclContext) notes
  let (missing, notes) := w.missingNotice.toggle (!w.hasRights)
    (Note.warning Note.missingRules Note.aclContext) notes
  ({ w with rulesNotice := rules, missingNotice := missing }, notes)

/-- Fetch the first page of roles, narrowed by a search (`SPEC_FULL.md` 9.3, `more_roles`). -/
def moreRoles (w : Wizard) (search : Option String) (node : σ) :
    Except Error (Option Nat) × Wizard × σ :=
  let (answer, roles, node) := w.roles.more search node
  (answer, { w with roles := roles }, node)

/-- Forget the roles and fetch the first page again (`SPEC_FULL.md` 9.3, `reload`). -/
def reloadRoles (w : Wizard) (node : σ) : Except Error (Option Nat) × Wizard × σ :=
  moreRoles { w with roles := w.roles.clear } none node

/-- Load the labels of the actions; on failure they stay (`SPEC_FULL.md` 9.3, `load_actions`). -/
def loadActions (w : Wizard) (node : σ) : Except Error Unit × Wizard × σ :=
  match AdminNode.resourceList Resource.aclActions node with
  | (.ok list, node) => (.ok (), { w with actions := list }, node)
  | (.error e, node) => (.error e, w, node)

/-- Load the user directory; on failure it stays (`SPEC_FULL.md` 9.3, `load_users`). -/
def loadUsers (w : Wizard) (node : σ) : Except Error Unit × Wizard × σ :=
  match AdminNode.directoryUsers node with
  | (.ok list, node) => (.ok (), { w with users := list }, node)
  | (.error e, node) => (.error e, w, node)

/-- Load the directory, the labels and the first page of roles; failures are not reported. -/
def load (w : Wizard) (node : σ) : Wizard × σ :=
  let (_, w, node) := w.loadUsers node
  let (_, w, node) := w.loadActions node
  let (_, w, node) := w.moreRoles none node
  (w, node)

end Wizard

end SeriesAcl
