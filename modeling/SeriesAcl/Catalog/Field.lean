import SeriesAcl.Json.Decode

/-!
# Metadata fields

One field of a metadata catalog. Members that are not known stay with the field, so that it goes
back to the node as it came. See `SPEC_FULL.md`, section 6.2.
-/

namespace SeriesAcl

open Json (Decoder Fields)

/-- A field of a metadata catalog (`SPEC_FULL.md` 6.2, `Field`). The collection holds the options to
choose from. -/
structure Field where
  id : String
  value : Json
  locked : Bool
  collection : Option Json
  tabIndex : Option Nat
  saved : Bool
  extra : Dict Json

namespace Field

/-- The names of the known members. -/
def known : List String := ["id", "value", "locked", "collection", "tabindex", "saved"]

/-- The record of a field; the members that say nothing are left out. -/
def toJson (f : Field) : Json :=
  .object ([("id", .string f.id), ("value", f.value), ("locked", .bool f.locked)] ++
    (match f.collection with
      | some c => [("collection", c)]
      | none => []) ++
    (match f.tabIndex with
      | some n => [("tabindex", .ofNat n)]
      | none => []) ++
    (if f.saved then [("saved", .bool true)] else []) ++
    f.extra.entries)

/-- The field of a record. -/
def decode : Decoder Field :=
  Decoder.openRecord known
    (Field.mk <$> Fields.required "id" Decoder.string
      <*> Fields.withDefault "value" Decoder.any .null
      <*> Fields.withDefault "locked" Decoder.bool false
      <*> Fields.optional "collection" Decoder.any
      <*> Fields.optional "tabindex" (Decoder.unsigned 32)
      <*> Fields.withDefault "saved" Decoder.bool false
      <*> Fields.rest known)

end Field

end SeriesAcl
