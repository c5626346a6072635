import SeriesAcl.Catalog.Field

/-!
# Metadata catalogs

A catalog of metadata fields, told from others by its flavor, and the copy of it that is submitted
to save one field. See `SPEC_FULL.md`, section 6.2.
-/

namespace SeriesAcl

open Json (Decoder Fields)

/-- A metadata catalog (`SPEC_FULL.md` 6.2, `Catalog`). The attribute to send is the id of the field
that a save is meant for. -/
structure Catalog where
  flavor : String
  title : String
  fields : List Field
  attributeToSend : Option String
  extra : Dict Json

namespace Catalog

/-- The flavor of the main catalog of a series. -/
def mainFlavor : String := "dublincore/series"

/-- The names of the known members. -/
def known : List String := ["flavor", "title", "fields", "attributeToSend"]

/-- The first field with an id. -/
def field? (c : Catalog) (id : String) : Option Field :=
  c.fields.find? fun f ↦ f.id == id

/-- The catalog to submit for a field: it names the field, and its option collections are emptied,
since the node does not take them back (`SPEC_FULL.md` 6.2, `prepare_for_save`). -/
def prepareForSave (c : Catalog) (id : String) : Catalog :=
  { c with
    attributeToSend := some id
    fields := c.fields.map fun f ↦ { f with collection := f.collection.map fun _ ↦ .array [] } }

/-- The catalog with the fields of an id marked as saved (`SPEC_FULL.md` 6.2). -/
def markSaved (c : Catalog) (id : String) : Catalog :=
  { c with fields := c.fields.map fun f ↦ if f.id = id then { f with saved := true } else f }

/-- A field list with a new value for its first field of an id, if there is one. -/
def setFirst? (id : String) (value : Json) : List Field → Option (List Field)
  | [] => none
  | f :: fs =>
    if f.id = id then some ({ f with value := value } :: fs)
    else (setFirst? id value fs).map (f :: ·)

/-- The catalog with a new value for its first field of an id, if there is one. -/
def setValue? (c : Catalog) (id : String) (value : Json) : Option Catalog :=
  (setFirst? id value c.fields).map fun fields ↦ { c with fields := fields }

/-- The record of a catalog. -/
def toJson (c : Catalog) : Json :=
  .object ([("flavor", .string c.flavor), ("title", .string c.title),
      ("fields", .array (c.fields.map Field.toJson))] ++
    (match c.attributeToSend with
      | some id => [("attributeToSend", .string id)]
      | none => []) ++
    c.extra.entries)

/-- The catalog of a record. -/
def decode : Decoder Catalog :=
  Decoder.openRecord known
    (Catalog.mk <$> Fields.required "flavor" Decoder.string
      <*> Fields.withDefault "title" Decoder.string ""
      <*> Fields.withDefault "fields" (Decoder.list Field.decode) []
      <*> Fields.optional "attributeToSend" Decoder.string
      <*> Fields.rest known)

end Catalog

end SeriesAcl
