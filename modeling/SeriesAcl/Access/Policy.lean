import SeriesAcl.Access.Entry

/-!
# Policies

The editable view of an access list: one row per role, with the read and write marks and the other
actions. Grouping a list of entries gives the rows in the order in which the roles first occur; of
several read or write entries the last one counts, and of the other actions those that are allowed
somewhere. See `SPEC_FULL.md`, sections 3.2 and 4.2.
-/

namespace SeriesAcl

open Json (Decoder Fields)

/-- A row of the editable view (`SPEC_FULL.md` 3.2, `Policy`). A row that has just been added names
no role. The actions carry the name of the field they are shown in. -/
structure Policy where
  role : Option String
  read : Bool
  write : Bool
  field : String
  actions : List String
  deriving DecidableEq, Repr

namespace Policy

/-- The field of the actions on the permissions tab of a series. -/
def seriesField : String := "series-acl-actions"

/-- The field of the actions in the wizard for a new series. -/
def wizardField : String := "new-series-acl-actions"

/-- A row that grants nothing. -/
def blank (role : Option String) (field : String) : Policy :=
  ⟨role, false, false, field, []⟩

/-- A row that grants reading and writing. -/
def readWrite (role field : String) : Policy :=
  ⟨some role, true, true, field, []⟩

/-- Whether a row grants an action besides reading and writing. -/
def hasAction (p : Policy) (action : String) : Bool :=
  p.actions.contains action

/-- The row with an action added, unless it has it already. -/
def pushAction (p : Policy) (action : String) : Policy :=
  if p.hasAction action then p else { p with actions := p.actions ++ [action] }

/-- Whether a row is worth keeping: it names a role and grants something (`SPEC_FULL.md` 4.2 and
4.3). -/
def isRetainable (p : Policy) : Bool :=
  p.role.isSome && (p.read || p.write || !p.actions.isEmpty)

/-- Whether two rows are one for deletion: the same role with the same read and write marks
(`SPEC_FULL.md` 9.1, `delete_policy`). -/
def sameRow (p q : Policy) : Bool :=
  p.role == q.role && p.read == q.read && p.write == q.write

/-- The row with what an entry of its role says. -/
def apply (p : Policy) (e : Entry) : Policy :=
  if e.action = Action.read then { p with read := e.allow }
  else if e.action = Action.write then { p with write := e.allow }
  else if e.allow then p.pushAction e.action
  else p

/-- The rows with what one entry says, in the first row of its role or a new last one. -/
def absorb (field : String) (e : Entry) : List Policy → List Policy
  | [] => [(blank (some e.role) field).apply e]
  | p :: ps => if p.role = some e.role then p.apply e :: ps else p :: absorb field e ps

/-- The rows of a list of entries (`SPEC_FULL.md` 3.2, `group_policies`). -/
def group (entries : List Entry) (field : String) : List Policy :=
  entries.foldl (fun rows e ↦ absorb field e rows) []

/-- The first row of a role. -/
def find? (rows : List Policy) (role : String) : Option Policy :=
  rows.find? fun p ↦ p.role == some role

/-- The list without its first row that is one with `target`, if there is such a row. -/
def removeFirst? (target : Policy) : List Policy → Option (List Policy)
  | [] => none
  | p :: ps => if p.sameRow target then some ps else (removeFirst? target ps).map (p :: ·)

/-- The list without its last row that is one with `target`, if there is such a row. -/
def removeLast? (rows : List Policy) (target : Policy) : Option (List Policy) :=
  (removeFirst? target rows.reverse).map List.reverse

/-- The list without its last row that is one with `target` (`SPEC_FULL.md` 9.1,
`delete_policy`). -/
def removeLast (rows : List Policy) (target : Policy) : List Policy :=
  (removeLast? rows target).getD rows

/-- The entries that a row worth keeping stands for: reading and writing when granted, then its
actions. -/
def entries (p : Policy) : List Entry :=
  match p.role with
  | none => []
  | some role =>
    (if p.read then [Entry.allowed role Action.read] else []) ++
      (if p.write then [Entry.allowed role Action.write] else []) ++
      p.actions.map (Entry.allowed role)

/-- The entries that a list of rows stands for (`SPEC_FULL.md` 4.2, `to_aces`). -/
def toEntries (rows : List Policy) : List Entry :=
  (rows.filter isRetainable).flatMap entries

/-- The record of a row. -/
def toJson (p : Policy) : Json :=
  .object [("role", .ofOption p.role), ("read", .bool p.read), ("write", .bool p.write),
    ("actions", .object [("name", .string p.field), ("value", .ofStrings p.actions)])]

/-- The actions of a record with the name of their field. -/
def decodeActions : Decoder (String × List String) :=
  Decoder.record ["name", "value"]
    (Prod.mk <$> Fields.required "name" Decoder.string
      <*> Fields.withDefault "value" (Decoder.list Decoder.string) [])

/-- The row of a record. -/
def decode : Decoder Policy :=
  Decoder.record ["role", "read", "write", "actions"]
    ((fun role read write actions ↦ ⟨role, read, write, actions.1, actions.2⟩)
      <$> Fields.optional "role" Decoder.string
      <*> Fields.withDefault "read" Decoder.bool false
      <*> Fields.withDefault "write" Decoder.bool false
      <*> Fields.required "actions" decodeActions)

end Policy

end SeriesAcl
