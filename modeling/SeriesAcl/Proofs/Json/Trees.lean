import SeriesAcl.Json.Decode

/-!
# Reading trees

What the tree of a value is read as. Asked for any value it gives the canonical form of the value
(`value?_ofJson`). A record is read field by field: each field has a reading of its own, and the
readings are put together (`Fields.run_eq_ok`).
-/

namespace SeriesAcl.Json

mutual

/-- The value of the tree of a value is its canonical form. -/
theorem value?_ofJson (v : Json) : (Node.ofJson v).value? = some v.canonical := by
  match v with
  | .null => rfl
  | .bool _ => rfl
  | .number _ => rfl
  | .string _ => rfl
  | .array items =>
    rw [Node.ofJson, Node.value?, itemValues?_ofItems items]
    rfl
  | .object members =>
    rw [Node.ofJson, Node.value?, memberValues?_ofMembers members]
    rfl

private theorem itemValues?_ofItems (items : List Json) :
    Node.itemValues? (Node.ofItems items) = some (canonicalItems items) := by
  match items with
  | [] => rfl
  | item :: items =>
    rw [Node.ofItems, Node.itemValues?, value?_ofJson item, itemValues?_ofItems items]
    rfl

private theorem memberValues?_ofMembers (members : List (String × Json)) :
    Node.memberValues? (Node.ofMembers members) = some (canonicalMembers members) := by
  match members with
  | [] => rfl
  | (key, v) :: members =>
    rw [Node.ofMembers, Node.memberValues?, value?_ofJson v, memberValues?_ofMembers members]
    rfl

end

/-- Asked for any value, the tree of a value gives its canonical form. -/
theorem Decoder.any_ofJson (v : Json) : Decoder.any (Node.ofJson v) = .ok v.canonical := by
  rw [Decoder.any, value?_ofJson]

namespace Fields

variable {α β : Type} {members : Members} {name : String} {d : Decoder α} {a : α}

/-- A mapped reading gives the image of what is read. -/
theorem map_eq_ok {x : Fields α} (f : α → β) (h : x members = .ok a) :
    (f <$> x) members = .ok (f a) := by
  show Fields.seq (Fields.pure f) x members = _
  rw [Fields.seq, h]
  rfl

/-- Two readings that succeed do so together. -/
theorem seq_eq_ok {f : Fields (α → β)} {x : Fields α} {g : α → β} (hf : f members = .ok g)
    (hx : x members = .ok a) : (f <*> x) members = .ok (g a) := by
  show Fields.seq f x members = _
  rw [Fields.seq, hf, hx]

/-- A field that is given is read with its own reading. -/
theorem withDefault_eq_ok {found : Nat × Node} {value : α}
    (hfound : locate name 0 members = some found) (h : d found.2 = .ok a) :
    withDefault name d value members = .ok a := by
  unfold withDefault read
  rw [hfound]
  dsimp only
  rw [h]

/-- A field that is not given has its default. -/
theorem withDefault_absent {value : α} (h : locate name 0 members = none) :
    withDefault name d value members = .ok value := by
  rw [withDefault, h]

/-- A record whose members pass the check holds what its fields are read as. -/
theorem run_eq_ok {known : List String} {fields : Fields α}
    (hcheck : check known [] 0 members = .ok ()) (h : fields members = .ok a) :
    run known fields members = .ok a := by
  simp only [run, Fields.seq, Fields.pure, hcheck, h]

end Fields

end SeriesAcl.Json
