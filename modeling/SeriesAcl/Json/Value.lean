import SeriesAcl.Dict
import SeriesAcl.Json.Number

/-!
# JSON documents

The values of JSON documents. The members of an object stand in a list, so an object can keep the
order in which a record declares its fields; `canonical` brings the members into key order and keeps
the last of several with one key.
-/

namespace SeriesAcl

/-- A JSON value. -/
inductive Json where
  | null
  | bool (value : Bool)
  | number (value : Json.Number)
  | string (value : String)
  | array (items : List Json)
  | object (members : List (String × Json))
  deriving Inhabited

namespace Json

/-- A natural number as a JSON value. -/
def ofNat (n : Nat) : Json := .number (.integer n)

/-- An integer as a JSON value. -/
def ofInt (n : Int) : Json := .number (.integer n)

/-- A text that may be absent. -/
def ofOption : Option String → Json
  | none => .null
  | some s => .string s

/-- A list of texts as an array. -/
def ofStrings (items : List String) : Json :=
  .array (items.map .string)

/-- The text of a string value. -/
def asString? : Json → Option String
  | .string s => some s
  | _ => none

/-- A dictionary as an object, its members in key order. -/
def ofDict (d : Dict Json) : Json :=
  .object d.entries

mutual

/-- The value with the members of every object in key order, the last of equal keys kept. -/
def canonical : Json → Json
  | .array items => .array (canonicalItems items)
  | .object members => .object (Dict.ofList (canonicalMembers members)).entries
  | value => value

/-- The canonical form of every item. -/
def canonicalItems : List Json → List Json
  | [] => []
  | item :: items => item.canonical :: canonicalItems items

/-- The canonical form of every member's value. -/
def canonicalMembers : List (String × Json) → List (String × Json)
  | [] => []
  | (key, value) :: members => (key, value.canonical) :: canonicalMembers members

end

end Json

end SeriesAcl
