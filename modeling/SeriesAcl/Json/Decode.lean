import SeriesAcl.Json.Reader
import SeriesAcl.Json.Printer
import SeriesAcl.Text.Lowercase

/-!
# Decoding JSON

Typed values out of JSON trees. A decoder meets the parts of a tree in the order of the text, so of
several faults the first one is reported. Records are read by field name: unknown members are
skipped, a member given twice is a fault, and a record may also be given as the array of its fields
in declared order.
-/

namespace SeriesAcl.Json

/-- A typed reading of a tree. -/
abbrev Decoder (α : Type) := Node → Except Fault α

namespace Decoder

/-- A text. -/
def string : Decoder String
  | .string s => .ok s
  | _ => .error .malformed

/-- A truth value in the strict form. -/
def bool : Decoder Bool
  | .bool b => .ok b
  | _ => .error .malformed

/-- An integer between two bounds, both included. -/
def integer (low high : Int) : Decoder Int
  | .number (.integer n) => if low ≤ n ∧ n ≤ high then .ok n else .error .malformed
  | _ => .error .malformed

/-- An integer of 64 bits. -/
def signed : Decoder Int :=
  integer (-Number.signedBound) (Number.signedBound - 1)

/-- A natural number of the given number of bits. -/
def unsigned (bits : Nat) : Decoder Nat := fun node ↦
  (integer 0 (Nat.pow 2 bits - 1 : Nat) node).map Int.toNat

/-- Any value. -/
def any : Decoder Json := fun node ↦
  match node.value? with
  | some v => .ok v
  | none => .error .malformed

/-- A value that may be null. -/
def nullable {α : Type} (d : Decoder α) : Decoder (Option α)
  | .null => .ok none
  | node => (d node).map some

/-- A list. -/
def list {α : Type} (d : Decoder α) : Decoder (List α)
  | .array items => items.mapM d
  | _ => .error .malformed

/-- One member of a dictionary. -/
def member {α : Type} (d : Decoder α) : Option String × Node → Except Fault (String × α)
  | (none, _) => .error .malformed
  | (some key, node) => (d node).map fun a ↦ (key, a)

/-- A dictionary; of two members with one key the later one counts. -/
def dict {α : Type} (d : Decoder α) : Decoder (Dict α)
  | .object members => (members.mapM (member d)).map Dict.ofList
  | _ => .error .malformed

/-- A truth value in the loose form: a truth value, its name in any letter case, a number other than
zero, or null for false. Every other text and every real number is false. -/
def truth : Decoder Bool
  | .bool b => .ok b
  | .string s => .ok (Text.eqIgnoringAsciiCase s "true")
  | .number n => .ok ((n.asSigned?.getD 0) != 0)
  | .null => .ok false
  | node =>
    match node.value? with
    | some v => .error (.notTruth v.compact)
    | none => .error .malformed

end Decoder

/-- The members of an object as they stand in the text. -/
abbrev Members := List (Option String × Node)

/-- A reading of the members of a record: its value, or the earliest fault with the place of the
member that shows it. -/
def Fields (α : Type) := Members → Except (Nat × Fault) α

namespace Fields

/-- A value that does not depend on the members. -/
protected def pure {α : Type} (a : α) : Fields α := fun _ ↦ .ok a

/-- Two readings of the same members; of two faults the earlier one is kept. -/
protected def seq {α β : Type} (f : Fields (α → β)) (x : Fields α) : Fields β := fun members ↦
  match f members, x members with
  | .ok g, .ok a => .ok (g a)
  | .ok _, .error e => .error e
  | .error e, .ok _ => .error e
  | .error e, .error e' => .error (if e'.1 < e.1 then e' else e)

/-- Fields are read from the same members, and the fault that stands first counts. -/
instance : Applicative Fields where
  pure := Fields.pure
  seq f x := Fields.seq f (x ())

/-- The first member with a name, with its place. -/
def locate (name : String) (place : Nat) : Members → Option (Nat × Node)
  | [] => none
  | (key, node) :: members =>
    if key = some name then some (place, node) else locate name (place + 1) members

/-- A decoded member with its place. -/
def read {α : Type} (d : Decoder α) (found : Nat × Node) : Except (Nat × Fault) α :=
  match d found.2 with
  | .ok a => .ok a
  | .error fault => .error (found.1, fault)

/-- A field that has to be given. -/
def required {α : Type} (name : String) (d : Decoder α) : Fields α := fun members ↦
  match locate name 0 members with
  | some found => read d found
  | none => .error (members.length, .malformed)

/-- A field with a value for when it is not given. -/
def withDefault {α : Type} (name : String) (d : Decoder α) (value : α) : Fields α := fun members ↦
  match locate name 0 members with
  | some found => read d found
  | none => .ok value

/-- A field that may be null or not given. -/
def optional {α : Type} (name : String) (d : Decoder α) : Fields (Option α) :=
  withDefault name d.nullable none

/-- Every member has a readable key, no known one is given twice, and unknown ones can be
skipped. -/
def check (known : List String) (seen : List String) (place : Nat) :
    Members → Except (Nat × Fault) Unit
  | [] => .ok ()
  | (none, _) :: _ => .error (place, .malformed)
  | (some key, node) :: members =>
    if key ∈ known then
      if key ∈ seen then .error (place, .malformed)
      else check known (key :: seen) (place + 1) members
    else if node.wellFormed then check known seen (place + 1) members
    else .error (place, .malformed)

/-- The members besides the known ones. -/
def others (known : List String) (place : Nat) :
    Members → Except (Nat × Fault) (List (String × Json))
  | [] => .ok []
  | (none, _) :: _ => .error (place, .malformed)
  | (some key, node) :: members =>
    if key ∈ known then others known (place + 1) members
    else
      match node.value? with
      | none => .error (place, .malformed)
      | some v => (others known (place + 1) members).map ((key, v) :: ·)

/-- The members besides the known ones as a dictionary. -/
def rest (known : List String) : Fields (Dict Json) := fun members ↦
  (others known 0 members).map Dict.ofList

/-- A record with the given field names out of the members of an object. -/
def run {α : Type} (known : List String) (fields : Fields α) (members : Members) :
    Except Fault α :=
  match (Fields.seq (Fields.seq (Fields.pure fun _ a ↦ a) (check known [] 0)) fields) members with
  | .ok a => .ok a
  | .error e => .error e.2

/-- The items of an array under the field names in declared order; items beyond the last name have
none. -/
def named : List String → List Node → Members
  | _, [] => []
  | [], item :: items => (none, item) :: named [] items
  | name :: names, item :: items => (some name, item) :: named names items

end Fields

namespace Decoder

/-- A record, as an object or as the array of its fields in declared order. -/
def record {α : Type} (known : List String) (fields : Fields α) : Decoder α
  | .object members => fields.run known members
  | .array items => fields.run known (Fields.named known items)
  | _ => .error .malformed

/-- A record that keeps its unknown members and is given as an object only. -/
def openRecord {α : Type} (known : List String) (fields : Fields α) : Decoder α
  | .object members => fields.run known members
  | _ => .error .malformed

/-- What a text holds. Text behind the value is a fault once the value itself has been read. -/
def ofText {α : Type} (d : Decoder α) (text : String) : Except Fault α :=
  let document := Document.read text
  match d document.root with
  | .error fault => .error fault
  | .ok a => if document.endsClean then .ok a else .error .malformed

/-- What a value holds. -/
def ofValue {α : Type} (d : Decoder α) (value : Json) : Except Fault α :=
  d (Node.ofJson value)

end Decoder

end SeriesAcl.Json
