import SeriesAcl.Access.Policy

/-!
# Validity

Whether a list of rows may be submitted. Every row has to name a role and grant something. The
relaxed check, for lists that replace a stored one, also asks for a row at all; the strict check,
for new series, asks for a role that may both read and write. See `SPEC_FULL.md`, section 4.3.
-/

namespace SeriesAcl

/-- How strictly rows are checked (`SPEC_FULL.md` 4.3, `ValidationMode`). -/
inductive CheckMode where
  | strict
  | relaxed
  deriving DecidableEq, Repr

/-- The name of a mode in records. -/
def CheckMode.name : CheckMode → String
  | .strict => "strict"
  | .relaxed => "relaxed"

/-- The outcome of a check (`SPEC_FULL.md` 4.3, `AclValidation`). -/
structure Check where
  rulesValid : Bool
  hasRights : Bool
  mode : CheckMode
  deriving DecidableEq, Repr

namespace Check

/-- Whether the rows may be submitted (`SPEC_FULL.md` 4.3, `is_valid`). -/
def isValid (c : Check) : Bool :=
  match c.mode with
  | .strict => c.rulesValid && c.hasRights
  | .relaxed => c.rulesValid

/-- The fields of a check in records. -/
def members (c : Check) : List (String × Json) :=
  [("rules_valid", .bool c.rulesValid), ("has_rights", .bool c.hasRights),
    ("mode", .string c.mode.name)]

/-- The record of a check. -/
def toJson (c : Check) : Json :=
  .object c.members

end Check

/-- The check of a list of rows (`SPEC_FULL.md` 4.3, `validate`). -/
def Policy.check (rows : List Policy) (mode : CheckMode) : Check where
  rulesValid :=
    rows.all isRetainable && match mode with
      | .strict => true
      | .relaxed => !rows.isEmpty
  hasRights := rows.any fun p ↦ p.read && p.write
  mode := mode

end SeriesAcl
