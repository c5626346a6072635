import SeriesAcl.Proofs.Json.Records

/-!
# Reading canonical forms

What is read from a value is read from its canonical form too, whatever the order of its members: a
decoder with this property is steady. Decoders of single values are, and nullable values, lists and
records are as far as their parts are (`Decoder.Steady.openRecord`).
-/

namespace SeriesAcl.Json

/-- A decoder that reads from the canonical form of a value what it reads from the value. -/
def Decoder.Steady {α : Type} (d : Decoder α) : Prop :=
  ∀ v a, d (Node.ofJson v) = .ok a → d (Node.ofJson v.canonical) = .ok a

/-- A reading of members that gives the same in key order, when no known key stands twice. -/
def Fields.Steady {α : Type} (known : List String) (x : Fields α) : Prop :=
  ∀ ms a, KnownOnce known ms → x (Node.ofMembers ms) = .ok a →
    x (Node.ofMembers (canonicalObject ms)) = .ok a

/-! ### Members in key order -/

private theorem knownOnce_canonicalObject (known : List String) (ms : List (String × Json)) :
    KnownOnce known (canonicalObject ms) :=
  (sorted_canonicalObject ms).nodup_keys.sublist (List.filter_sublist.map Prod.fst)

/-- A known member is the same in key order. -/
theorem KnownOnce.lookup_canonicalObject {known : List String} {ms : List (String × Json)}
    (h : KnownOnce known ms) {name : String} (hname : name ∈ known) :
    Dict.lookup name (canonicalObject ms) = (Dict.lookup name ms).map canonical := by
  have hknown : ∀ l : List (String × Json),
      Dict.lookup name (l.filter fun m ↦ m.1 ∈ known) = Dict.lookup name l := by
    intro l
    rw [Dict.lookup_filter (fun key ↦ decide (key ∈ known)), if_pos (decide_eq_true hname)]
  rw [Json.lookup_canonicalObject, ← hknown ms.reverse, List.filter_reverse,
    Dict.lookup_reverse h, hknown]

/-- Of the members that are kept the last one with a key is found. -/
theorem get?_rest (known : List String) (ms : List (String × Json)) (key : String) :
    (Dict.ofList (canonicalMembers (ms.filter fun m ↦ m.1 ∉ known))).get? key =
      if key ∈ known then none else (Dict.lookup key ms.reverse).map canonical := by
  have hlast := Json.lookup_canonicalObject key (ms.filter fun m ↦ m.1 ∉ known)
  rw [← List.filter_reverse, Dict.lookup_filter (fun key ↦ decide (key ∉ known))] at hlast
  refine hlast.trans ?_
  by_cases h : key ∈ known <;> simp [h]

/-- The members that are kept are the same in key order. -/
theorem rest_canonicalObject (known : List String) (ms : List (String × Json)) :
    Fields.rest known (Node.ofMembers (canonicalObject ms)) =
      Fields.rest known (Node.ofMembers ms) := by
  rw [Fields.rest_ofMembers, Fields.rest_ofMembers]
  congr 1
  apply (Dict.sorted_ofList _).ext (Dict.sorted_ofList _)
  intro key
  have htwice : canonical ∘ canonical = canonical := funext canonical_canonical
  rw [get?_rest, get?_rest, Dict.lookup_reverse (sorted_canonicalObject ms).nodup_keys,
    Json.lookup_canonicalObject, Option.map_map, htwice]

namespace Fields.Steady

variable {α β : Type} {known : List String}

/-- A steady reading that is mapped is steady. -/
theorem map (f : α → β) {x : Fields α} (h : x.Steady known) :
    (f <$> x : Fields β).Steady known := by
  intro ms b hms hb
  obtain ⟨a, ha, rfl⟩ := map_eq_ok_iff.mp hb
  exact map_eq_ok f (h ms a hms ha)

/-- Two steady readings are steady together. -/
theorem seq {f : Fields (α → β)} {x : Fields α} (hf : f.Steady known) (hx : x.Steady known) :
    (f <*> x).Steady known := by
  intro ms b hms hb
  obtain ⟨g, a, hg, ha, rfl⟩ := seq_eq_ok_iff.mp hb
  exact seq_eq_ok (hf ms g hms hg) (hx ms a hms ha)

/-- A known member that is required is read steadily. -/
theorem required {name : String} (hname : name ∈ known) {d : Decoder α} (hd : d.Steady) :
    (Fields.required name d).Steady known := by
  intro ms a hms ha
  obtain ⟨v, hv, ha⟩ := required_ofMembers_iff.mp ha
  refine required_ofMembers_iff.mpr ⟨v.canonical, ?_, hd v a ha⟩
  rw [hms.lookup_canonicalObject hname, hv, Option.map_some]

/-- A known member with a default is read steadily. -/
theorem withDefault {name : String} (hname : name ∈ known) {d : Decoder α} (hd : d.Steady)
    (value : α) : (Fields.withDefault name d value).Steady known := by
  intro ms a hms ha
  rw [withDefault_ofMembers_iff] at ha ⊢
  rw [hms.lookup_canonicalObject hname]
  cases hv : Dict.lookup name ms with
  | none =>
    rw [hv] at ha
    exact ha
  | some v =>
    rw [hv] at ha
    exact hd v a ha

/-- What is kept of unknown members is read steadily. -/
theorem rest : (Fields.rest known).Steady known := by
  intro ms a _ ha
  rw [rest_canonicalObject]
  exact ha

end Fields.Steady

namespace Decoder.Steady

variable {α : Type}

/-- Texts are read steadily. -/
theorem string : Decoder.string.Steady := by
  intro v s h
  rw [string_ofJson_iff.mp h]
  rfl

/-- Truth values are read steadily. -/
theorem bool : Decoder.bool.Steady := by
  intro v b h
  rw [bool_ofJson_iff.mp h]
  rfl

/-- Unsigned numbers are read steadily. -/
theorem unsigned (bits : Nat) : (Decoder.unsigned bits).Steady := by
  intro v n h
  obtain ⟨rfl, -⟩ := unsigned_ofJson_iff.mp h
  exact h

/-- Values of any kind are read steadily. -/
theorem any : Decoder.any.Steady := by
  intro v a h
  rw [any_ofJson] at h ⊢
  rw [canonical_canonical]
  exact h

/-- Nullable values are read steadily if the values are. -/
theorem nullable {d : Decoder α} (hd : d.Steady) : d.nullable.Steady := by
  intro v o h
  rw [nullable_ofJson_iff] at h ⊢
  rcases h with ⟨rfl, rfl⟩ | ⟨hv, a, ha, rfl⟩
  · exact .inl ⟨rfl, rfl⟩
  · exact .inr ⟨mt canonical_eq_null_iff.mp hv, a, hd v a ha, rfl⟩

/-- Lists are read steadily if their items are. -/
theorem list {d : Decoder α} (hd : d.Steady) : d.list.Steady := by
  intro v as h
  obtain ⟨items, rfl, hall⟩ := list_ofJson_iff.mp h
  refine list_ofJson_iff.mpr ⟨items.map canonical, ?_, ?_⟩
  · rw [canonical, canonicalItems_eq_map]
  · rw [List.forall₂_map_left_iff]
    exact hall.imp fun item a ↦ hd item a

/-- A record of steady fields is read the same in key order. -/
theorem openRecord {known : List String} {fields : Fields α} (hfields : fields.Steady known) :
    (Decoder.openRecord known fields).Steady := by
  intro v a h
  obtain ⟨ms, rfl, hms, ha⟩ := openRecord_ofJson_iff.mp h
  exact openRecord_ofJson_iff.mpr
    ⟨canonicalObject ms, rfl, knownOnce_canonicalObject known ms, hfields ms a hms ha⟩

end Decoder.Steady

end SeriesAcl.Json
