import SeriesAcl.Error.Basic
import SeriesAcl.Json.Decode

/-!
# Errors as records

The JSON record of an error: its kind under `type`, its code and its message. A record may also be
given as an array that starts with the kind.
-/

namespace SeriesAcl

namespace Error

/-- The record of an error. -/
def toJson (e : Error) : Json :=
  .object [("type", .string e.kind.name), ("code", .string e.code), ("message", .string e.message)]

/-- The kind under `type`. -/
def decodeKind : Json.Decoder ErrorKind := fun node ↦ do
  match ErrorKind.ofName? (← Json.Decoder.string node) with
  | some kind => .ok kind
  | none => .error .malformed

/-- The error of a record; every part of the record has to be readable, also the unknown ones. -/
def decode : Json.Decoder Error := fun node ↦ do
  let _ ← Json.Decoder.any node
  Json.Decoder.record ["type", "code", "message"]
    (Error.mk <$> Json.Fields.required "type" decodeKind
      <*> Json.Fields.required "code" Json.Decoder.string
      <*> Json.Fields.required "message" Json.Decoder.string) node

end Error

end SeriesAcl
