import SeriesAcl.Access.Classification
import SeriesAcl.Access.Switch
import SeriesAcl.Access.Validity
import SeriesAcl.Editing.Desk
import SeriesAcl.Roles.Fetch

/-!
# Editing the access of a series

The permissions tab of an existing series. Every change is saved at once: the operations that change
rows end in `save`, which checks the rows, sends the list that they stand for and reports the
outcome. A list that comes as entries is classified, so that the template picker shows what it
follows. See `SPEC_FULL.md`, section 9.1.
-/

namespace SeriesAcl

/-- The outcome of a save that was not stopped by an error (`SPEC_FULL.md` 9.1, `SaveOutcome`). -/
inductive SaveOutcome where
  | saved
  /-- Nothing was sent, since the rows did not pass the check. -/
  | rejected (check : Check)
  deriving DecidableEq, Repr

/-- Whether the rows were saved. -/
def SaveOutcome.isSaved : SaveOutcome → Bool
  | .saved => true
  | .rejected _ => false

/-- The state of the permissions tab (`SPEC_FULL.md` 9.1, `SeriesAccessEditor`). -/
structure SeriesEditor where
  series : String
  rows : List Policy
  selected : Option Template
  flags : Flags
  isCustom : Bool
  tags : List UserTag
  users : List UserTag
  locked : Bool
  valid : Bool
  pending : Bool
  updateMode : UpdateMode
  org : Option String
  roles : RoleDirectory
  actions : ResourceList
  rulesNotice : Slot
  lockNotice : Slot

namespace SeriesEditor

/-- How long the message about a save is shown, in milliseconds. -/
def savedDuration : Nat := 1200

/-- An editor before anything is loaded. -/
def make (series : String) (rolePage : Nat) : SeriesEditor where
  series := series
  rows := []
  selected := none
  flags := Flags.none
  isCustom := false
  tags := []
  users := []
  locked := false
  valid := true
  pending := false
  updateMode := .optional
  org := none
  roles := RoleDirectory.make rolePage .advance
  actions := Dict.empty
  rulesNotice := Slot.empty
  lockNotice := Slot.empty

/-- The tags with the first user of a row's role, unless that user is among them. -/
def tagRow (users tags : List UserTag) (row : Policy) : List UserTag :=
  match row.role with
  | none => tags
  | some role =>
    match users.find? fun u ↦ u.value == role with
    | none => tags
    | some user => if user ∈ tags then tags else tags ++ [user]

/-- The users of the directory whose role has a row, each at most once. -/
def tagsFor (rows : List Policy) (users : List UserTag) : List UserTag :=
  rows.foldl (tagRow users) []

/-- The editor with the rows of a list of entries, classified. -/
def replaceRows (e : SeriesEditor) (entries : List Entry) : SeriesEditor :=
  let rows := Policy.group entries Policy.seriesField
  let e := { e with rows := rows, tags := tagsFor rows e.users }
  match Classification.classify rows e.org with
  | .custom => { e with isCustom := true }
  | .template id flags =>
    { e with isCustom := false, selected := Template.byId? id, flags := flags }

/-- The editor with its flags set, for the next switch. -/
def setFlags (e : SeriesEditor) (flags : Flags) : SeriesEditor :=
  { e with flags := flags }

/-- The editor with its rows changed, and nothing else. -/
def editRows (e : SeriesEditor) (f : List Policy → List Policy) : SeriesEditor :=
  { e with rows := f e.rows }

/-- The editor with its tags made from its rows again (`SPEC_FULL.md` 9.1,
`reload_selected_tags`). -/
def reloadTags (e : SeriesEditor) : SeriesEditor :=
  { e with tags := tagsFor e.rows e.users }

/-- The editor with an empty row at the end; it is not saved until it names a role
(`SPEC_FULL.md` 9.1, `add_policy`). -/
def addRow (e : SeriesEditor) : SeriesEditor :=
  { e with rows := e.rows ++ [Policy.blank none Policy.seriesField], valid := false }

variable {σ ν : Type} [AdminNode σ] [NoteSink ν]

/-- Check the rows and replace the stored list with theirs (`SPEC_FULL.md` 9.1, `access_save`).
Events are rewritten when that is asked for or the organization wants it always. -/
def save (e : SeriesEditor) (reload overrideEvents : Bool) (desk : Desk σ ν) :
    Turn SeriesEditor σ ν SaveOutcome :=
  let check := Policy.check e.rows .relaxed
  let (slot, notes) := e.rulesNotice.toggle (!check.rulesValid)
    (Note.warning Note.invalidRules Note.aclContext) desk.notes
  let e := { e with valid := check.rulesValid, rulesNotice := slot }
  let desk := { desk with notes := notes }
  if check.isValid then
    let update : AccessUpdate := ⟨Policy.toEntries e.rows, e.updateMode.overrides overrideEvents⟩
    let (answer, desk) := desk.call (AdminNode.saveSeriesAccess e.series update)
    let e := { e with pending := false }
    match answer with
    | .error error => ⟨.error error, e, desk⟩
    | .ok () =>
      let (_, notes) :=
        NoteSink.add (Note.info Note.listSaved Note.aclContext savedDuration) desk.notes
      ⟨.ok .saved, if reload then e.reloadTags else e, { desk with notes := notes }⟩
  else ⟨.ok (.rejected check), e, desk⟩

/-- Replace the rows with those of a list of entries (`SPEC_FULL.md` 9.1, `change_policies`). While
loading nothing is saved. -/
def changeEntries (e : SeriesEditor) (entries : List Entry) (loading : Bool) (desk : Desk σ ν) :
    Turn SeriesEditor σ ν (Option SaveOutcome) :=
  let e := e.replaceRows entries
  if loading then ⟨.ok none, { e with valid := true }, desk⟩
  else (e.save false false desk).map some

/-- Fetch the next page of roles (`SPEC_FULL.md` 9.1, `more_roles`). -/
def moreRoles (e : SeriesEditor) (search : Option String) (desk : Desk σ ν) :
    Turn SeriesEditor σ ν (Option Nat) :=
  let (answer, roles, node) := e.roles.more search desk.node
  ⟨answer, { e with roles := roles }, { desk with node := node }⟩

/-- The editor with what the node says about the user and the user directory. Without an answer the
user stays as known, and the directory is empty. -/
def loadPeople (e : SeriesEditor) (desk : Desk σ ν) : SeriesEditor × Desk σ ν :=
  let (user, desk) := desk.call AdminNode.currentUser
  let (users, desk) := desk.call AdminNode.directoryUsers
  let e := match user with
    | .ok u => { e with org := u.homeOrg, updateMode := u.org.updateMode }
    | .error _ => e
  let e := match users with
    | .ok list => { e with users := list }
    | .error _ => { e with users := [] }
  (e, desk)

/-- The editor with the labels of the actions, which stay as known without an answer. -/
def loadActions (e : SeriesEditor) (desk : Desk σ ν) : SeriesEditor × Desk σ ν :=
  match desk.call (AdminNode.resourceList Resource.aclActions) with
  | (.ok list, desk) => ({ e with actions := list }, desk)
  | (.error _, desk) => (e, desk)

/-- The editor with the rows, the lock and the privileged roles of an access block. -/
def showAccess (e : SeriesEditor) (access : SeriesAccess) (entries : List Entry) (desk : Desk σ ν) :
    SeriesEditor × Desk σ ν :=
  let shown := e.changeEntries entries true desk
  let e := { shown.editor with locked := access.locked }
  let (slot, notes) := e.lockNotice.toggle access.locked
    (Note.warning Note.listLocked (Note.lockContext e.series)) shown.desk.notes
  ({ e with lockNotice := slot, roles := e.roles.ensureAll access.privileges.keys },
    { shown.desk with notes := notes })

/-- Load the labels of the actions and the first page of roles; neither failure is reported. -/
def loadPickers (e : SeriesEditor) (desk : Desk σ ν) : Turn SeriesEditor σ ν Unit :=
  let (e, desk) := e.loadActions desk
  let fetched := e.moreRoles none desk
  ⟨.ok (), fetched.editor, fetched.desk⟩

/-- Load the user, the directory and the access list of the series (`SPEC_FULL.md` 9.1, `load`).
Only a failure to read the list itself is reported. -/
def load (e : SeriesEditor) (desk : Desk σ ν) : Turn SeriesEditor σ ν Unit :=
  let (e, desk) := e.loadPeople desk
  match desk.call (AdminNode.seriesAccess e.series) with
  | (.error error, desk) => ⟨.error error, e, desk⟩
  | (.ok ⟨none⟩, desk) => e.loadPickers desk
  | (.ok ⟨some access⟩, desk) =>
    match access.entries with
    | .error error => ⟨.error error, e, desk⟩
    | .ok entries =>
      let (e, desk) := e.showAccess access entries desk
      e.loadPickers desk

/-- Switch the series to a built-in template, keeping the roles outside the templates, in one save
(`SPEC_FULL.md` 9.1, `change_base_acl_switch_with`). -/
def switchTemplate (e : SeriesEditor) (id : Nat) (overrideEvents : Bool) (desk : Desk σ ν) :
    Turn SeriesEditor σ ν SaveOutcome :=
  match Template.byId? id with
  | none => ⟨.error (Error.unknownTemplateId id), e, desk⟩
  | some template =>
    let e := { e with selected := some template }
    let e := e.replaceRows (Policy.switchEntries e.rows template e.org e.flags)
    e.save false overrideEvents desk

/-- Replace the list with one managed by the organization (`SPEC_FULL.md` 9.1,
`change_base_acl`). -/
def applyManaged (e : SeriesEditor) (id : Int) (desk : Desk σ ν) :
    Turn SeriesEditor σ ν (Option SaveOutcome) :=
  match desk.call (AdminNode.managedAcl id) with
  | (.error error, desk) => ⟨.error error, e, desk⟩
  | (.ok managed, desk) => e.changeEntries managed.entries false desk

/-- Delete the last row that is one with `target` (`SPEC_FULL.md` 9.1, `delete_policy`). -/
def deleteRow (e : SeriesEditor) (target : Policy) (desk : Desk σ ν) :
    Turn SeriesEditor σ ν SaveOutcome :=
  (e.editRows fun rows ↦ Policy.removeLast rows target).save true false desk

/-- Give a user of the directory a row of their own (`SPEC_FULL.md` 9.1, `add_user_tag`). -/
def addTag (e : SeriesEditor) (tag : UserTag) (desk : Desk σ ν) :
    Turn SeriesEditor σ ν SaveOutcome :=
  let e := { e with
    rows := e.rows ++ [Policy.readWrite tag.value Policy.seriesField]
    roles := e.roles.ensure tag.value
    tags := if tag ∈ e.tags then e.tags else e.tags ++ [tag] }
  e.save false false desk

/-- Take away the rows of a user of the directory (`SPEC_FULL.md` 9.1, `remove_user_tag`). -/
def removeTag (e : SeriesEditor) (tag : UserTag) (desk : Desk σ ν) :
    Turn SeriesEditor σ ν SaveOutcome :=
  let e := { e with
    rows := e.rows.filter fun p ↦ p.role ≠ some tag.value
    tags := e.tags.filter fun t ↦ t ≠ tag }
  e.save false false desk

/-- A row was edited: save once it names a role (`SPEC_FULL.md` 9.1, `access_changed`). -/
def rowChanged (e : SeriesEditor) (role : Option String) (desk : Desk σ ν) :
    Turn SeriesEditor σ ν (Option SaveOutcome) :=
  match role.filter fun r ↦ r ≠ "" with
  | some _ => (e.save true false desk).map some
  | none => ⟨.ok none, e, desk⟩

end SeriesEditor

end SeriesAcl
