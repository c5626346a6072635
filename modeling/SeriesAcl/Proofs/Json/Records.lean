import SeriesAcl.Proofs.Json.Canonical
import SeriesAcl.Proofs.Json.Trees

/-!
# Reading records

What a record is read as, once its members are those of a value: no known key stands twice
(`Decoder.openRecord_ofJson_iff`), every known member is found by its key, and the others are kept.
Of a record that is written as known members in declared order with what was kept behind them
(`Written`), each member is read as it was.
-/

namespace SeriesAcl.Json

/-! ### Trees of values -/

mutual

private theorem wellFormed_ofJson (v : Json) : (Node.ofJson v).wellFormed = true := by
  match v with
  | .null => rfl
  | .bool _ => rfl
  | .number _ => rfl
  | .string _ => rfl
  | .array items => exact itemsWellFormed_ofItems items
  | .object members => exact membersWellFormed_ofMembers members

private theorem itemsWellFormed_ofItems (items : List Json) :
    Node.itemsWellFormed (Node.ofItems items) = true := by
  match items with
  | [] => rfl
  | item :: items =>
    rw [Node.ofItems, Node.itemsWellFormed, wellFormed_ofJson item, itemsWellFormed_ofItems items]
    rfl

private theorem membersWellFormed_ofMembers (members : List (String × Json)) :
    Node.membersWellFormed (Node.ofMembers members) = true := by
  match members with
  | [] => rfl
  | (_, v) :: members =>
    rw [Node.ofMembers, Node.membersWellFormed, wellFormed_ofJson v,
      membersWellFormed_ofMembers members]
    rfl

end

/-- No known key stands twice. -/
def KnownOnce (known : List String) (members : List (String × Json)) : Prop :=
  ((members.filter fun m ↦ m.1 ∈ known).map Prod.fst).Nodup

namespace Fields

variable {α β : Type} {members : Members} {known : List String}

/-- A mapped reading succeeds with the image of what is read. -/
theorem map_eq_ok_iff {f : α → β} {x : Fields α} {b : β} :
    (f <$> x) members = .ok b ↔ ∃ a, x members = .ok a ∧ f a = b := by
  show Fields.seq (Fields.pure f) x members = _ ↔ _
  rw [Fields.seq]
  cases x members <;> simp [Fields.pure]

/-- Two readings succeed when both of them do, on the same members. -/
theorem seq_eq_ok_iff {f : Fields (α → β)} {x : Fields α} {b : β} :
    (f <*> x) members = .ok b ↔ ∃ g a, f members = .ok g ∧ x members = .ok a ∧ g a = b := by
  show Fields.seq f x members = _ ↔ _
  rw [Fields.seq]
  cases f members <;> cases x members <;> simp

/-- A record is read when no known member is given twice and its fields are read. -/
theorem run_eq_ok_iff {fields : Fields α} {a : α} :
    run known fields members = .ok a ↔
      check known [] 0 members = .ok () ∧ fields members = .ok a := by
  simp only [run, Fields.seq, Fields.pure]
  cases check known [] 0 members <;> cases fields members <;> simp

/-! ### Members of values -/

private theorem locate_ofMembers_cases (name : String) (place : Nat) (ms : List (String × Json)) :
    locate name place (Node.ofMembers ms) = none ∧ Dict.lookup name ms = none ∨
      ∃ i v, locate name place (Node.ofMembers ms) = some (i, Node.ofJson v) ∧
        Dict.lookup name ms = some v := by
  induction ms generalizing place with
  | nil => exact .inl ⟨rfl, rfl⟩
  | cons m rest ih =>
    rw [Node.ofMembers, locate, Dict.lookup]
    by_cases h : m.1 = name
    · rw [if_pos (congrArg some h), if_pos h]
      exact .inr ⟨place, m.2, rfl, rfl⟩
    · rw [if_neg (mt Option.some.inj h), if_neg h]
      exact ih (place + 1)

private theorem read_eq_ok_iff {d : Decoder α} {found : Nat × Node} {a : α} :
    read d found = .ok a ↔ d found.2 = .ok a := by
  rw [read]
  cases d found.2 <;> simp

/-- A field that has to be given is read from the member with its name. -/
theorem required_ofMembers_iff {name : String} {d : Decoder α} {ms : List (String × Json)} {a : α} :
    required name d (Node.ofMembers ms) = .ok a ↔
      ∃ v, Dict.lookup name ms = some v ∧ d (Node.ofJson v) = .ok a := by
  rcases locate_ofMembers_cases name 0 ms with ⟨hfound, hv⟩ | ⟨i, v, hfound, hv⟩ <;>
    simp [required, hfound, hv, read_eq_ok_iff]

/-- A field with a default is read from the member with its name, if there is one. -/
theorem withDefault_ofMembers_iff {name : String} {d : Decoder α} {value : α}
    {ms : List (String × Json)} {a : α} :
    withDefault name d value (Node.ofMembers ms) = .ok a ↔
      (Dict.lookup name ms).elim (.ok value) (fun v ↦ d (Node.ofJson v)) = .ok a := by
  rcases locate_ofMembers_cases name 0 ms with ⟨hfound, hv⟩ | ⟨i, v, hfound, hv⟩ <;>
    simp [withDefault, hfound, hv, read_eq_ok_iff]

/-- What holds of the default and of all that can be read holds of a field. -/
theorem of_withDefault {name : String} {d : Decoder α} {value : α} {ms : List (String × Json)}
    {a : α} (h : withDefault name d value (Node.ofMembers ms) = .ok a) {P : α → Prop}
    (hdefault : P value) (hread : ∀ v b, d (Node.ofJson v) = .ok b → P b) : P a := by
  rw [withDefault_ofMembers_iff] at h
  cases hv : Dict.lookup name ms with
  | none =>
    rw [hv] at h
    obtain rfl := Except.ok.inj h
    exact hdefault
  | some v =>
    rw [hv] at h
    exact hread v a h

private theorem others_ofMembers (known : List String) (place : Nat) (ms : List (String × Json)) :
    others known place (Node.ofMembers ms) =
      .ok (canonicalMembers (ms.filter fun m ↦ m.1 ∉ known)) := by
  induction ms generalizing place with
  | nil => rfl
  | cons m rest ih =>
    rw [Node.ofMembers, others, value?_ofJson]
    by_cases h : m.1 ∈ known
    · simp [h, ih]
    · simp [h, ih, canonicalMembers, Except.map]

/-- The members besides the known ones are kept with their values in canonical form. -/
theorem rest_ofMembers (known : List String) (ms : List (String × Json)) :
    rest known (Node.ofMembers ms) =
      .ok (Dict.ofList (canonicalMembers (ms.filter fun m ↦ m.1 ∉ known))) := by
  rw [rest, others_ofMembers]
  rfl

private theorem check_ofMembers_iff_seen (known seen : List String) (place : Nat)
    (ms : List (String × Json)) :
    check known seen place (Node.ofMembers ms) = .ok () ↔
      KnownOnce known ms ∧ ∀ m ∈ ms, m.1 ∈ known → m.1 ∉ seen := by
  induction ms generalizing seen place with
  | nil => simp [Node.ofMembers, check, KnownOnce]
  | cons m rest ih =>
    rw [Node.ofMembers, check, wellFormed_ofJson]
    unfold KnownOnce at ih ⊢
    by_cases hk : m.1 ∈ known
    · by_cases hs : m.1 ∈ seen
      · simp [hk, hs]
      · rw [if_pos hk, if_neg hs, ih, List.filter_cons_of_pos (by simpa using hk), List.map_cons,
          List.nodup_cons]
        constructor
        · rintro ⟨hnodup, hfresh⟩
          refine ⟨⟨fun hm ↦ ?_, hnodup⟩, fun x hx hknown ↦ ?_⟩
          · obtain ⟨x, hx, hxm⟩ := List.mem_map.mp hm
            exact hfresh x (List.mem_of_mem_filter hx) (hxm ▸ hk) (hxm ▸ List.mem_cons_self)
          · rcases List.mem_cons.mp hx with rfl | hx
            · exact hs
            · exact fun hseen ↦ hfresh x hx hknown (List.mem_cons_of_mem _ hseen)
        · rintro ⟨⟨hm, hnodup⟩, hfresh⟩
          refine ⟨hnodup, fun x hx hknown hseen ↦ ?_⟩
          rcases List.mem_cons.mp hseen with heq | hseen
          · apply hm
            rw [← heq]
            exact List.mem_map_of_mem (List.mem_filter.mpr ⟨hx, decide_eq_true hknown⟩)
          · exact hfresh x (List.mem_cons_of_mem _ hx) hknown hseen
    · simp [hk, ih]

/-- The members of a value pass the check when no known key stands twice. -/
theorem check_ofMembers_iff {ms : List (String × Json)} :
    check known [] 0 (Node.ofMembers ms) = .ok () ↔ KnownOnce known ms := by
  simp [check_ofMembers_iff_seen]

end Fields

namespace Decoder

variable {α : Type} {d : Decoder α} {v : Json} {known : List String}

/-! ### Single values -/

/-- A text is read from a text only. -/
theorem string_ofJson_iff {s : String} : string (Node.ofJson v) = .ok s ↔ v = .string s := by
  cases v <;> simp [Node.ofJson, string]

/-- A truth value is read from a truth value only. -/
theorem bool_ofJson_iff {b : Bool} : bool (Node.ofJson v) = .ok b ↔ v = .bool b := by
  cases v <;> simp [Node.ofJson, bool]

/-- A natural number is read when it fits the bits. -/
theorem unsigned_ofJson_iff {bits n : Nat} :
    unsigned bits (Node.ofJson v) = .ok n ↔ v = .ofNat n ∧ n < Nat.pow 2 bits := by
  have hpos : 0 < Nat.pow 2 bits := Nat.two_pow_pos bits
  unfold unsigned
  cases v with
  | number value =>
    cases value with
    | integer i =>
      have hfits : (0 ≤ i ∧ i ≤ ((Nat.pow 2 bits - 1 : Nat) : Int)) ↔
          0 ≤ i ∧ i.toNat < Nat.pow 2 bits := by
        omega
      simp only [Node.ofJson, integer, ofNat, hfits]
      split
      · simp only [Except.map, Except.ok.injEq, Json.number.injEq, Number.integer.injEq]
        omega
      · simp only [Except.map, reduceCtorEq, Json.number.injEq, Number.integer.injEq, false_iff]
        omega
    | real negative magnitude => simp [Node.ofJson, integer, ofNat, Except.map]
  | _ => simp [Node.ofJson, integer, ofNat, Except.map]

/-- A nullable value is none at null, and otherwise what its decoder reads. -/
theorem nullable_ofJson_iff {o : Option α} :
    nullable d (Node.ofJson v) = .ok o ↔
      v = .null ∧ o = none ∨ v ≠ .null ∧ ∃ a, d (Node.ofJson v) = .ok a ∧ o = some a := by
  have hmap : ∀ node, (d node).map some = .ok o ↔ ∃ a, d node = .ok a ∧ o = some a := by
    intro node
    cases d node <;> simp [Except.map, eq_comm]
  cases v <;> simp [Node.ofJson, nullable, hmap, eq_comm]

private theorem mapM_ofItems_iff {items : List Json} {as : List α} :
    (Node.ofItems items).mapM d = .ok as ↔
      List.Forall₂ (fun item a ↦ d (Node.ofJson item) = .ok a) items as := by
  induction items generalizing as with
  | nil => simp [Node.ofItems, pure, Except.pure, eq_comm]
  | cons item rest ih =>
    simp only [Node.ofItems, List.mapM_cons, List.forall₂_cons_left_iff, ← ih]
    cases d (Node.ofJson item) <;> cases (Node.ofItems rest).mapM d <;>
      simp [bind, Except.bind, pure, Except.pure, eq_comm]

/-- A list is read item by item. -/
theorem list_ofJson_iff {as : List α} :
    list d (Node.ofJson v) = .ok as ↔ ∃ items, v = .array items ∧
      List.Forall₂ (fun item a ↦ d (Node.ofJson item) = .ok a) items as := by
  cases v <;> simp [Node.ofJson, list, mapM_ofItems_iff]

/-- Every item of a list was read from a value. -/
theorem exists_of_mem_list {as : List α} (h : list d (Node.ofJson v) = .ok as) {a : α}
    (ha : a ∈ as) : ∃ item, d (Node.ofJson item) = .ok a := by
  obtain ⟨items, -, hall⟩ := list_ofJson_iff.mp h
  clear h
  induction hall with
  | nil => cases ha
  | cons hitem _ ih =>
    rcases List.mem_cons.mp ha with rfl | ha
    · exact ⟨_, hitem⟩
    · exact ih ha

/-- Written items are read back as a list. -/
theorem list_map_toJson {toJson : α → Json} {as : List α}
    (h : ∀ a ∈ as, d (Node.ofJson (toJson a)) = .ok a) :
    list d (Node.ofJson (.array (as.map toJson))) = .ok as := by
  refine list_ofJson_iff.mpr ⟨_, rfl, ?_⟩
  rw [List.forall₂_map_left_iff]
  exact List.forall₂_same.mpr h

/-- Any value is read in its canonical form. -/
theorem any_eq_ok {a : Json} (h : any (Node.ofJson v) = .ok a) : a = v.canonical := by
  rw [any_ofJson] at h
  exact (Except.ok.inj h).symm

/-- What a field that may be null was read from. -/
theorem exists_of_optional {name : String} {ms : List (String × Json)} {o : Option α}
    (h : Fields.optional name d (Node.ofMembers ms) = .ok o) {a : α} (ha : o = some a) :
    ∃ v, v ≠ .null ∧ d (Node.ofJson v) = .ok a := by
  subst ha
  refine Fields.of_withDefault h (P := fun o ↦ ∀ a, o = some a → ∃ v, v ≠ .null ∧
    d (Node.ofJson v) = .ok a) nofun ?_ a rfl
  intro v o ho a ha
  obtain ⟨-, rfl⟩ | ⟨hv, b, hb, rfl⟩ := nullable_ofJson_iff.mp ho
  · cases ha
  · exact ⟨v, hv, Option.some.inj ha ▸ hb⟩

/-- A record that keeps its unknown members is read from an object in which no known key stands
twice. -/
theorem openRecord_ofJson_iff {fields : Fields α} {a : α} :
    openRecord known fields (Node.ofJson v) = .ok a ↔
      ∃ ms, v = .object ms ∧ KnownOnce known ms ∧ fields (Node.ofMembers ms) = .ok a := by
  cases v <;>
    simp [Node.ofJson, openRecord, Fields.run_eq_ok_iff, Fields.check_ofMembers_iff]

end Decoder

/-! ### Written records -/

/-- What a record that is read keeps besides its known members. -/
structure Remainder (known : List String) (extra : Dict Json) : Prop where
  sorted : extra.Sorted
  unknown : ∀ m ∈ extra.entries, m.1 ∉ known
  canonical : ∀ m ∈ extra.entries, m.2.canonical = m.2

/-- What is kept of unknown members is a remainder. -/
theorem remainder_of_rest {known : List String} {ms : List (String × Json)} {extra : Dict Json}
    (h : Fields.rest known (Node.ofMembers ms) = .ok extra) : Remainder known extra := by
  rw [Fields.rest_ofMembers] at h
  obtain rfl := Except.ok.inj h
  have hmem : ∀ m ∈ (Dict.ofList (canonicalMembers (ms.filter fun m ↦ m.1 ∉ known))).entries,
      m ∈ canonicalMembers (ms.filter fun m ↦ m.1 ∉ known) := fun _ ↦ Dict.mem_of_mem_ofList
  refine ⟨Dict.sorted_ofList _, fun m hm ↦ ?_, fun m hm ↦ ?_⟩
  · have hkept := hmem m hm
    rw [canonicalMembers_eq_map] at hkept
    obtain ⟨x, hx, rfl⟩ := List.mem_map.mp hkept
    exact of_decide_eq_true (List.mem_filter.mp hx).2
  · exact canonical_of_mem_canonicalMembers _ (hmem m hm)

/-- The members of a record, those that say nothing left out. -/
def told (members : List (String × Option Json)) : List (String × Json) :=
  members.filterMap fun m ↦ m.2.map fun v ↦ (m.1, v)

private theorem keys_told (members : List (String × Option Json)) :
    ((told members).map Prod.fst).Sublist (members.map Prod.fst) := by
  induction members with
  | nil => exact List.Sublist.slnil
  | cons m rest ih =>
    obtain ⟨key, value⟩ := m
    cases value with
    | none => exact ih.cons key
    | some v => exact ih.cons_cons key

/-- Where no key stands twice, a member is found if it says something. -/
theorem lookup_told {members : List (String × Option Json)} (h : (members.map Prod.fst).Nodup)
    (name : String) : Dict.lookup name (told members) = (Dict.lookup name members).join := by
  induction members with
  | nil => rfl
  | cons m rest ih =>
    obtain ⟨key, value⟩ := m
    obtain ⟨hkey, hrest⟩ := List.nodup_cons.mp h
    have ih := ih hrest
    cases value with
    | none =>
      show Dict.lookup name (told rest) = _
      rw [Dict.lookup]
      split
      · next heq =>
        apply Dict.lookup_eq_none
        rintro e he rfl
        exact hkey (heq ▸ (keys_told rest).subset (List.mem_map_of_mem he))
      · exact ih
    | some v =>
      show Dict.lookup name ((key, v) :: told rest) = _
      rw [Dict.lookup, Dict.lookup]
      split
      · rfl
      · exact ih

/-- The known members of a record in declared order, with what was kept behind them. -/
structure Written (known : List String) (members : List (String × Option Json))
    (extra : Dict Json) : Prop where
  declared : members.map Prod.fst = known
  nodup : known.Nodup
  extra : Remainder known extra

namespace Written

variable {known : List String} {members : List (String × Option Json)} {extra : Dict Json}
  (h : Written known members extra)
include h

private theorem known_of_mem {m : String × Json} (hm : m ∈ told members) : m.1 ∈ known := by
  rw [← h.declared]
  exact (keys_told members).subset (List.mem_map_of_mem hm)

/-- No known member is written twice. -/
theorem knownOnce : KnownOnce known (told members ++ extra.entries) := by
  have htold : (told members).filter (fun m ↦ m.1 ∈ known) = told members :=
    List.filter_eq_self.mpr fun m hm ↦ decide_eq_true (h.known_of_mem hm)
  have hextra : extra.entries.filter (fun m ↦ m.1 ∈ known) = [] :=
    List.filter_eq_nil_iff.mpr fun m hm ↦ by simpa using h.extra.unknown m hm
  rw [KnownOnce, List.filter_append, htold, hextra, List.append_nil]
  exact h.nodup.sublist (h.declared ▸ keys_told members)

/-- A known member is found if it says something. -/
theorem lookup_eq {name : String} {value : Option Json}
    (hvalue : Dict.lookup name members = some value) :
    Dict.lookup name (told members ++ extra.entries) = value := by
  have hname : name ∈ known := by
    rw [← h.declared]
    exact List.mem_map.mpr ⟨_, Dict.mem_of_lookup hvalue, rfl⟩
  have hnone : Dict.lookup name extra.entries = none := by
    apply Dict.lookup_eq_none
    rintro m hm rfl
    exact h.extra.unknown m hm hname
  rw [Dict.lookup_append, hnone, Option.or_none, lookup_told (h.declared ▸ h.nodup), hvalue,
    Option.join_some]

/-- A required member that is written is read. -/
theorem required {α : Type} {name : String} {d : Decoder α} {v : Json} {a : α}
    (hv : Dict.lookup name members = some (some v)) (ha : d (Node.ofJson v) = .ok a) :
    Fields.required name d (Node.ofMembers (told members ++ extra.entries)) = .ok a :=
  Fields.required_ofMembers_iff.mpr ⟨v, h.lookup_eq hv, ha⟩

/-- A member with a default is read as it is written, and left out it has its default. -/
theorem withDefault {α : Type} {name : String} {d : Decoder α} {value a : α} {v : Option Json}
    (hv : Dict.lookup name members = some v)
    (ha : v.elim (.ok value) (fun v ↦ d (Node.ofJson v)) = .ok a) :
    Fields.withDefault name d value (Node.ofMembers (told members ++ extra.entries)) = .ok a := by
  rw [Fields.withDefault_ofMembers_iff, h.lookup_eq hv]
  exact ha

/-- A field that may be null is given back if its text is not null. -/
theorem optional {α : Type} {name : String} {d : Decoder α} (toJson : α → Json) {o : Option α}
    (hv : Dict.lookup name members = some (o.map toJson))
    (ha : ∀ a, o = some a → toJson a ≠ .null ∧ d (Node.ofJson (toJson a)) = .ok a) :
    Fields.optional name d (Node.ofMembers (told members ++ extra.entries)) = .ok o := by
  apply h.withDefault hv
  cases o with
  | none => rfl
  | some a =>
    obtain ⟨hnull, hread⟩ := ha a rfl
    exact Decoder.nullable_ofJson_iff.mpr (.inr ⟨hnull, a, hread, rfl⟩)

/-- What was kept is kept again. -/
theorem rest_eq :
    Fields.rest known (Node.ofMembers (told members ++ extra.entries)) = .ok extra := by
  have htold : (told members).filter (fun m ↦ m.1 ∉ known) = [] :=
    List.filter_eq_nil_iff.mpr fun m hm ↦ by simpa using h.known_of_mem hm
  have hextra : extra.entries.filter (fun m ↦ m.1 ∉ known) = extra.entries :=
    List.filter_eq_self.mpr fun m hm ↦ decide_eq_true (h.extra.unknown m hm)
  rw [Fields.rest_ofMembers, List.filter_append, htold, hextra, List.nil_append,
    canonicalMembers_eq_self h.extra.canonical]
  exact congrArg _ (congrArg Dict.mk (Dict.entries_ofList h.extra.sorted))

end Written

end SeriesAcl.Json
