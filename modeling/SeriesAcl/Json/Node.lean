import SeriesAcl.Json.Value

/-!
# JSON text as read

The tree a text is read into before anything is asked of it. Two leaves stand for what has no value:
`unreadable` for text that is well formed but has none (a number beyond the reals, an escape that is
no character, nesting past the limit), which may still be skipped, and `broken` for the place where
the text stops being JSON. What is asked of a tree is asked in the order of the text, so the first
fault of the text is the one that is met.
-/

namespace SeriesAcl.Json

/-- A JSON text as a tree. A key is absent when it has no value or is malformed. -/
inductive Node where
  | null
  | bool (value : Bool)
  | number (value : Number)
  | string (value : String)
  | array (items : List Node)
  | object (members : List (Option String × Node))
  | unreadable
  | broken
  deriving Inhabited

/-- Why a text or value is not what was asked for. -/
inductive Fault where
  /-- Not JSON, or not of the shape asked for. -/
  | malformed
  /-- An array or object in the place of a truth value, with its compact text. -/
  | notTruth (text : String)
  deriving DecidableEq, Repr

namespace Node

mutual

/-- Whether the text is well formed throughout, so that it may be skipped. -/
def wellFormed : Node → Bool
  | .array items => itemsWellFormed items
  | .object members => membersWellFormed members
  | .broken => false
  | _ => true

/-- Whether every item is well formed. -/
def itemsWellFormed : List Node → Bool
  | [] => true
  | item :: items => item.wellFormed && itemsWellFormed items

/-- Whether every member is well formed. -/
def membersWellFormed : List (Option String × Node) → Bool
  | [] => true
  | (_, value) :: members => value.wellFormed && membersWellFormed members

end

mutual

/-- The value of a tree, in canonical form; none when the text or a part of it has none. -/
def value? : Node → Option Json
  | .null => some .null
  | .bool b => some (.bool b)
  | .number n => some (.number n)
  | .string s => some (.string s)
  | .array items => (itemValues? items).map .array
  | .object members => (memberValues? members).map fun ms ↦ .object (Dict.ofList ms).entries
  | .unreadable => none
  | .broken => none

/-- The values of the items. -/
def itemValues? : List Node → Option (List Json)
  | [] => some []
  | item :: items => do return (← item.value?) :: (← itemValues? items)

/-- The members with their values. -/
def memberValues? : List (Option String × Node) → Option (List (String × Json))
  | [] => some []
  | (key, value) :: members => do return ((← key), (← value.value?)) :: (← memberValues? members)

end

mutual

/-- The tree of a value. -/
def ofJson : Json → Node
  | .null => .null
  | .bool b => .bool b
  | .number n => .number n
  | .string s => .string s
  | .array items => .array (ofItems items)
  | .object members => .object (ofMembers members)

/-- The trees of the items. -/
def ofItems : List Json → List Node
  | [] => []
  | item :: items => ofJson item :: ofItems items

/-- The members with their trees. -/
def ofMembers : List (String × Json) → List (Option String × Node)
  | [] => []
  | (key, value) :: members => (some key, ofJson value) :: ofMembers members

end

end Node

end SeriesAcl.Json
