import SeriesAcl.Command.Arguments
import SeriesAcl.Command.Table
import SeriesAcl.Editing.SeriesEditor
import SeriesAcl.Notice.Board

/-!
# Running commands

What a command does on a node and the text that it prints, as a table or as JSON. The notes that the
editor shows on the way are not printed. See `SPEC_FULL.md`, section 10.4.
-/

namespace SeriesAcl

/-- How a command is to run: how many roles a page has, and whether it prints JSON. -/
structure RunOptions where
  rolePageSize : Nat
  json : Bool

namespace RunOptions

/-- Whether the environment asks for JSON. -/
def jsonRequested (get : String → Option String) : Bool :=
  match get "SERIES_ACCESS_OUTPUT" with
  | none => false
  | some format => Text.eqIgnoringAsciiCase format "json"

end RunOptions

namespace Command

/-- The name of the program in its own help. -/
def programName : String := "series_access_cli"

/-- A value as it is printed: laid out, with sorted members. -/
def printJson (value : Json) : String :=
  value.canonical.pretty

/-- The record of a template for a caller. -/
def templateJson (org : Option String) (t : Template) : Json :=
  .object [("id", .ofNat t.id), ("key", .string t.key), ("role", .ofOption (t.roleFor org)),
    ("name", .string t.name)]

/-- The list of the templates for a caller. -/
def showTemplates (json : Bool) (org : Option String) : String :=
  if json then printJson (.array (Template.catalog.map (templateJson org)))
  else Table.ofTemplates Template.catalog org

/-- The key of the template that a loaded editor shows. -/
def shownKey (e : SeriesEditor) : String :=
  match e.selected with
  | some t => if e.isCustom then Template.custom.key else t.key
  | none => Template.custom.key

/-- The access of a series as a loaded editor shows it. -/
def showAccess (json : Bool) (e : SeriesEditor) : String :=
  if json then
    printJson (.object [("series", .string e.series), ("template", .string (shownKey e)),
      ("flags", e.flags.toJson), ("locked", .bool e.locked),
      ("policies", .array (e.rows.map Policy.toJson))])
  else
    let (series, key) := (e.series, shownKey e)
    let (download, annotate) := (e.flags.download, e.flags.annotate)
    let lock := if e.locked then " [locked]" else ""
    s!"series: {series}\ntemplate: {key} (download={download}, annotate={annotate}){lock}\n" ++
      Table.ofPolicies e.rows

/-- The report about a switch to a template. -/
def showApplied (t : Template) (e : SeriesEditor) : String :=
  let (key, series, count) := (t.key, e.series, (Policy.toEntries e.rows).length)
  s!"applied template {key} to series {series} ({count} entries)\n" ++ Table.ofPolicies e.rows

/-- The list of the known roles. -/
def showRoles (json : Bool) (roles : Dict String) : String :=
  if json then printJson (.ofDict (roles.mapValues .string)) else Table.ofRoles roles

variable {σ : Type} [AdminNode σ]

/-- Load the access of a series on a fresh editor and board. -/
def openSeries (options : RunOptions) (series : String) (node : σ) :
    Turn SeriesEditor σ Board Unit :=
  (SeriesEditor.make series options.rolePageSize).load ⟨node, Board.empty⟩

/-- Switch a loaded series to a template, unless it is locked. -/
def applyTo (t : Template) (flags : Flags) (overrideEvents : Bool) (e : SeriesEditor)
    (desk : Desk σ Board) : Except Error String × σ :=
  if e.locked then (.error (Error.seriesLocked e.series), desk.node)
  else
    let switched := (e.setFlags flags).switchTemplate t.id overrideEvents desk
    match switched.answer with
    | .error error => (.error error, switched.desk.node)
    | .ok (.rejected check) =>
      (.error (Error.listNotSaved check.rulesValid check.hasRights), switched.desk.node)
    | .ok .saved => (.ok (showApplied t switched.editor), switched.desk.node)

/-- Run a command on a node: what it prints (`SPEC_FULL.md` 10.4). -/
def run (options : RunOptions) (command : Command) : Call σ String := fun node ↦
  match command with
  | .help => (.ok (Arguments.usage programName), node)
  | .templates =>
    let (user, node) := AdminNode.currentUser node
    (.ok (showTemplates options.json (user.toOption >>= User.homeOrg)), node)
  | .show series =>
    let opened := openSeries options series node
    match opened.answer with
    | .error error => (.error error, opened.desk.node)
    | .ok () => (.ok (showAccess options.json opened.editor), opened.desk.node)
  | .apply series key flags overrideEvents =>
    match Template.byKey? key with
    | none => (.error (Error.unknownTemplateKey key), node)
    | some t =>
      let opened := openSeries options series node
      match opened.answer with
      | .error error => (.error error, opened.desk.node)
      | .ok () => applyTo t flags overrideEvents opened.editor opened.desk
  | .roles search =>
    let directory := RoleDirectory.make options.rolePageSize .advance
    match directory.more search node with
    | (.error error, _, node) => (.error error, node)
    | (.ok _, directory, node) => (.ok (showRoles options.json directory.roles), node)

end Command

end SeriesAcl
