import SeriesAcl.Json.Value
import SeriesAcl.Proofs.Json.Dictionaries

/-!
# Canonical forms

The canonical form of a value is its own canonical form (`canonical_canonical`). In the canonical
form of an object the members are found that the object has last (`lookup_canonicalObject`).
-/

namespace SeriesAcl.Json

/-- The items of an array are brought into canonical form one by one. -/
theorem canonicalItems_eq_map (items : List Json) : canonicalItems items = items.map canonical := by
  induction items with
  | nil => rfl
  | cons item rest ih => rw [canonicalItems, ih, List.map_cons]

/-- The members of an object are brought into canonical form one by one. -/
theorem canonicalMembers_eq_map (members : List (String × Json)) :
    canonicalMembers members = members.map fun m ↦ (m.1, m.2.canonical) := by
  induction members with
  | nil => rfl
  | cons m rest ih => rw [canonicalMembers, ih, List.map_cons]

/-- Members whose values are in canonical form are left as they are. -/
theorem canonicalMembers_eq_self {members : List (String × Json)}
    (h : ∀ m ∈ members, m.2.canonical = m.2) : canonicalMembers members = members := by
  rw [canonicalMembers_eq_map]
  have hself : ∀ m ∈ members, (m.1, m.2.canonical) = id m := fun m hm ↦ Prod.ext rfl (h m hm)
  rw [List.map_congr_left hself, List.map_id]

/-- The members of an object in key order, their values in canonical form. -/
def canonicalObject (members : List (String × Json)) : List (String × Json) :=
  (Dict.ofList (canonicalMembers members)).entries

/-- The members of a canonical object are in key order. -/
theorem sorted_canonicalObject (members : List (String × Json)) :
    (Dict.mk (canonicalObject members)).Sorted :=
  Dict.sorted_ofList _

mutual

/-- A value in canonical form is its own canonical form. -/
theorem canonical_canonical (v : Json) : v.canonical.canonical = v.canonical := by
  match v with
  | .null => rfl
  | .bool _ => rfl
  | .number _ => rfl
  | .string _ => rfl
  | .array items => rw [canonical, canonical, canonicalItems_canonicalItems items]
  | .object members =>
    have hvalues : canonicalMembers (canonicalObject members) = canonicalObject members := by
      apply canonicalMembers_eq_self
      intro m hm
      exact canonical_of_mem_canonicalMembers members (Dict.mem_of_mem_ofList hm)
    show Json.object (Dict.ofList (canonicalMembers (canonicalObject members))).entries =
      Json.object (canonicalObject members)
    rw [hvalues, Dict.entries_ofList (sorted_canonicalObject members)]

private theorem canonicalItems_canonicalItems (items : List Json) :
    canonicalItems (canonicalItems items) = canonicalItems items := by
  match items with
  | [] => rfl
  | item :: items =>
    rw [canonicalItems, canonicalItems, canonical_canonical item,
      canonicalItems_canonicalItems items]

/-- The members of a canonical object are in canonical form. -/
theorem canonical_of_mem_canonicalMembers (members : List (String × Json)) {m : String × Json}
    (h : m ∈ canonicalMembers members) : m.2.canonical = m.2 := by
  match members with
  | [] => cases h
  | (key, v) :: members =>
    rcases List.mem_cons.mp h with rfl | h
    · exact canonical_canonical v
    · exact canonical_of_mem_canonicalMembers members h

end

/-- Only null has the canonical form null. -/
theorem canonical_eq_null_iff {v : Json} : v.canonical = .null ↔ v = .null := by
  cases v <;> simp [canonical]

/-- In the canonical form of an object the last member with a key is found. -/
theorem lookup_canonicalObject (key : String) (members : List (String × Json)) :
    Dict.lookup key (canonicalObject members) =
      (Dict.lookup key members.reverse).map canonical := by
  have hget := Dict.get?_ofList (canonicalMembers members) key
  rw [canonicalMembers_eq_map, ← List.map_reverse, Dict.lookup_map, ← canonicalMembers_eq_map]
    at hget
  exact hget

end SeriesAcl.Json
