import SeriesAcl.Access.Entry
import SeriesAcl.Error.Basic

/-!
# Access documents

The records that carry an access list between console and node: the document of a list, the access
block of a series, a list managed by the organization, and the request that replaces a list. The
access block carries its document either as JSON or as text that holds JSON. See `SPEC_FULL.md`,
sections 3.1 and 4.4.
-/

namespace SeriesAcl

open Json (Decoder Fields)

/-- The document of an access list (`SPEC_FULL.md` 3.1, `AclDocument`). -/
structure AclDocument where
  entries : List Entry
  deriving DecidableEq, Repr

namespace AclDocument

/-- The inner record of a document. -/
def listJson (entries : List Entry) : Json :=
  .object [("ace", .array (entries.map Entry.toJson))]

/-- The entries of an inner record. -/
def decodeList : Decoder (List Entry) :=
  Decoder.record ["ace"] (Fields.withDefault "ace" (Decoder.list Entry.decode) [])

/-- The record of a document. -/
def toJson (d : AclDocument) : Json :=
  .object [("acl", listJson d.entries)]

/-- The document of a record. -/
def decode : Decoder AclDocument :=
  Decoder.record ["acl"] (AclDocument.mk <$> Fields.withDefault "acl" decodeList [])

/-- The document as text. -/
def text (d : AclDocument) : String :=
  d.toJson.compact

end AclDocument

/-- A request to replace the access list of a series, with or without those of its events
(`SPEC_FULL.md` 3.1, `AccessUpdate`). -/
structure AccessUpdate where
  entries : List Entry
  overrideEvents : Bool
  deriving DecidableEq, Repr

namespace AccessUpdate

/-- The form fields of a request: the document as text and the flag (`SPEC_FULL.md` 4.4). -/
def formFields (u : AccessUpdate) : List (String × String) :=
  [("acl", (AclDocument.mk u.entries).text), ("override", toString u.overrideEvents)]

end AccessUpdate

/-- The access block of a series (`SPEC_FULL.md` 3.1, `SeriesAccess`). -/
structure SeriesAccess where
  acl : Json
  locked : Bool
  privileges : Dict Json

namespace SeriesAccess

/-- A block without a list. -/
def empty : SeriesAccess := ⟨.null, false, Dict.empty⟩

/-- The access block of a record. -/
def decode : Decoder SeriesAccess :=
  Decoder.record ["acl", "locked", "privileges"]
    (SeriesAccess.mk <$> Fields.withDefault "acl" Decoder.any .null
      <*> Fields.withDefault "locked" Decoder.bool false
      <*> Fields.withDefault "privileges" (Decoder.dict Decoder.any) Dict.empty)

/-- The document of a block: held as text, given inline, or absent. -/
def document (a : SeriesAccess) : Except Error AclDocument :=
  match a.acl with
  | .string text => (Decoder.ofText AclDocument.decode text).mapError Error.invalidJson
  | .null => .ok ⟨[]⟩
  | .object members =>
    (Decoder.ofValue AclDocument.decode (.object members)).mapError Error.invalidJson
  | other => .error (Error.unexpectedPayload "invalid_acl" "acl" other.compact)

/-- The entries of a block. -/
def entries (a : SeriesAccess) : Except Error (List Entry) :=
  a.document.map AclDocument.entries

end SeriesAccess

/-- The answer about the access of a series, which may lack the block (`SPEC_FULL.md` 3.1). -/
structure AccessEnvelope where
  seriesAccess : Option SeriesAccess

namespace AccessEnvelope

/-- The answer of a record. -/
def decode : Decoder AccessEnvelope :=
  Decoder.record ["series_access"]
    (AccessEnvelope.mk <$> Fields.optional "series_access" SeriesAccess.decode)

end AccessEnvelope

/-- An access list with a name, managed by the organization (`SPEC_FULL.md` 3.1, `ManagedAcl`). -/
structure ManagedAcl where
  id : Int
  name : String
  entries : List Entry
  deriving DecidableEq, Repr

namespace ManagedAcl

/-- The record of a managed list. -/
def toJson (m : ManagedAcl) : Json :=
  .object [("id", .ofInt m.id), ("name", .string m.name), ("acl", AclDocument.listJson m.entries)]

/-- The managed list of a record. -/
def decode : Decoder ManagedAcl :=
  Decoder.record ["id", "name", "acl"]
    (ManagedAcl.mk <$> Fields.withDefault "id" Decoder.signed 0
      <*> Fields.withDefault "name" Decoder.string ""
      <*> Fields.withDefault "acl" AclDocument.decodeList [])

end ManagedAcl

end SeriesAcl
