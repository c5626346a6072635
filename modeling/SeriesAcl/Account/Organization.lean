import SeriesAcl.Access.Template
import SeriesAcl.Json.Decode
import SeriesAcl.Text.Blank

/-!
# Organizations

The organization of a user with its properties, and what the properties say about access lists: the
template and flags a new series starts with, and whether saving a series also rewrites the lists of
its events. See `SPEC_FULL.md`, sections 4.4 and 9.3.
-/

namespace SeriesAcl

open Json (Decoder Fields)

/-- An organization. -/
structure Organization where
  id : String
  name : Option String
  properties : Dict String

/-- Whether saving the list of a series also rewrites the lists of its events
(`SPEC_FULL.md` 4.4). -/
inductive UpdateMode where
  | always
  | never
  | optional
  deriving DecidableEq, Repr

namespace UpdateMode

/-- The name of a mode. -/
def name : UpdateMode → String
  | .always => "always"
  | .never => "never"
  | .optional => "optional"

/-- The mode that a setting names, blanks at its ends aside; any other setting leaves the choice
(`SPEC_FULL.md` 4.4). -/
def ofSetting (setting : Option String) : UpdateMode :=
  match setting.map Text.trim with
  | some "always" => .always
  | some "never" => .never
  | _ => .optional

/-- Whether events are rewritten, given what was asked for (`SPEC_FULL.md` 4.4). -/
def overrides (mode : UpdateMode) (requested : Bool) : Bool :=
  requested || mode == .always

end UpdateMode

namespace Organization

/-- An organization without properties. -/
def empty : Organization := ⟨"", none, Dict.empty⟩

/-- A property. -/
def property (o : Organization) (key : String) : Option String :=
  o.properties.get? key

/-- The mode in the properties. -/
def updateMode (o : Organization) : UpdateMode :=
  UpdateMode.ofSetting (o.property "admin.series.acl.event.update.mode")

/-- The template that new series start with (`SPEC_FULL.md` 9.3, `reset`). -/
def defaultTemplate (o : Organization) : Option Template :=
  o.property "switch.acl.default_template" >>= Template.byKey?

/-- The flags that new series start with; only the exact text `true` sets one (`SPEC_FULL.md` 9.3,
`reset`). -/
def defaultFlags (o : Organization) : Flags where
  download := o.property "switch.acl.default_download" == some "true"
  annotate := o.property "switch.acl.default_annotate" == some "true"

/-- The record of an organization. -/
def toJson (o : Organization) : Json :=
  .object [("id", .string o.id), ("name", .ofOption o.name),
    ("properties", .ofDict (o.properties.mapValues .string))]

/-- The organization of a record. -/
def decode : Decoder Organization :=
  Decoder.record ["id", "name", "properties"]
    (Organization.mk <$> Fields.withDefault "id" Decoder.string ""
      <*> Fields.optional "name" Decoder.string
      <*> Fields.withDefault "properties" (Decoder.dict Decoder.string) Dict.empty)

end Organization

end SeriesAcl
