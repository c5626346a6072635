import SeriesAcl.Catalog.Metadata
import SeriesAcl.Proofs.Json.Reordering

/-!
# Catalogs that go back to the node

A catalog that was read is genuine: the values in it are in canonical form, tab indexes fit their
bits, and what was kept of unknown members has no known key. A genuine catalog is read back as it
was written, in the order of its members as well as in key order (`Catalog.Genuine.readAs_toJson`),
and so is the copy that is submitted for a field (`Metadata.readAs_of_mem`).
-/

namespace SeriesAcl

open Json (Decoder Fields Node Remainder Written)

namespace Field

variable {f : Field}

/-- A field as reading leaves it. -/
structure Genuine (f : Field) : Prop where
  value : f.value.canonical = f.value
  collection : ∀ c, f.collection = some c → c ≠ .null ∧ c.canonical = c
  tabIndex : ∀ n, f.tabIndex = some n → n < Nat.pow 2 32
  extra : Remainder known f.extra

/-- Everything that was read as a field is genuine. -/
theorem genuine_of_decode {v : Json} (h : decode (Node.ofJson v) = .ok f) : f.Genuine := by
  obtain ⟨ms, rfl, -, hall⟩ := Decoder.openRecord_ofJson_iff.mp h
  -- The reading is taken apart from its last field.
  obtain ⟨_, extra, hsix, hextra, rfl⟩ := Fields.seq_eq_ok_iff.mp hall
  obtain ⟨_, saved, hfive, -, rfl⟩ := Fields.seq_eq_ok_iff.mp hsix
  obtain ⟨_, tabIndex, hfour, htabIndex, rfl⟩ := Fields.seq_eq_ok_iff.mp hfive
  obtain ⟨_, collection, hthree, hcollection, rfl⟩ := Fields.seq_eq_ok_iff.mp hfour
  obtain ⟨_, locked, htwo, -, rfl⟩ := Fields.seq_eq_ok_iff.mp hthree
  obtain ⟨_, value, hone, hvalue, rfl⟩ := Fields.seq_eq_ok_iff.mp htwo
  obtain ⟨id, -, rfl⟩ := Fields.map_eq_ok_iff.mp hone
  constructor
  · apply Fields.of_withDefault hvalue (P := fun v ↦ v.canonical = v) rfl
    intro v a ha
    rw [Decoder.any_eq_ok ha, Json.canonical_canonical]
  · intro c hc
    obtain ⟨v, hv, hread⟩ := Decoder.exists_of_optional hcollection hc
    rw [Decoder.any_eq_ok hread]
    exact ⟨mt Json.canonical_eq_null_iff.mp hv, Json.canonical_canonical v⟩
  · intro n hn
    obtain ⟨v, -, hread⟩ := Decoder.exists_of_optional htabIndex hn
    exact (Decoder.unsigned_ofJson_iff.mp hread).2
  · exact Json.remainder_of_rest hextra

/-- The known members of a field, in declared order. -/
def members (f : Field) : List (String × Option Json) :=
  [("id", some (.string f.id)), ("value", some f.value), ("locked", some (.bool f.locked)),
    ("collection", f.collection), ("tabindex", f.tabIndex.map Json.ofNat),
    ("saved", if f.saved then some (.bool true) else none)]

private theorem toJson_eq (f : Field) :
    f.toJson = .object (Json.told f.members ++ f.extra.entries) := by
  obtain ⟨id, value, locked, collection, tabIndex, saved, extra⟩ := f
  cases collection <;> cases tabIndex <;> cases saved <;> rfl

/-- A written field is read back. -/
theorem Genuine.decode_toJson (h : f.Genuine) : decode (Node.ofJson f.toJson) = .ok f := by
  have hwritten : Written known f.members f.extra := ⟨rfl, by decide, h.extra⟩
  rw [toJson_eq]
  refine Decoder.openRecord_ofJson_iff.mpr ⟨_, rfl, hwritten.knownOnce, ?_⟩
  refine Fields.seq_eq_ok (Fields.seq_eq_ok (Fields.seq_eq_ok (Fields.seq_eq_ok (Fields.seq_eq_ok
    (Fields.seq_eq_ok (Fields.map_eq_ok Field.mk (hwritten.required rfl rfl)) ?value)
    (hwritten.withDefault rfl rfl)) ?collection) ?tabIndex) ?saved) hwritten.rest_eq
  case value =>
    apply hwritten.withDefault rfl
    rw [Option.elim_some, Json.Decoder.any_ofJson, h.value]
  case collection =>
    apply hwritten.optional fun c ↦ c
    · rw [Option.map_id']
      rfl
    · intro c hc
      obtain ⟨hnull, hcanonical⟩ := h.collection c hc
      exact ⟨hnull, by rw [Json.Decoder.any_ofJson, hcanonical]⟩
  case tabIndex =>
    apply hwritten.optional Json.ofNat rfl
    intro n hn
    exact ⟨nofun, Decoder.unsigned_ofJson_iff.mpr ⟨rfl, h.tabIndex n hn⟩⟩
  case saved =>
    apply hwritten.withDefault rfl
    cases f.saved <;> rfl

private theorem steady_decode : decode.Steady := by
  have hid : (Fields.required "id" Decoder.string).Steady known := .required (by decide) .string
  have hvalue : (Fields.withDefault "value" Decoder.any .null).Steady known :=
    .withDefault (by decide) .any _
  have hlocked : (Fields.withDefault "locked" Decoder.bool false).Steady known :=
    .withDefault (by decide) .bool _
  have hcollection : (Fields.optional "collection" Decoder.any).Steady known :=
    .withDefault (by decide) (.nullable .any) _
  have htabIndex : (Fields.optional "tabindex" (Decoder.unsigned 32)).Steady known :=
    .withDefault (by decide) (.nullable (.unsigned 32)) _
  have hsaved : (Fields.withDefault "saved" Decoder.bool false).Steady known :=
    .withDefault (by decide) .bool _
  exact .openRecord (((((((hid.map mk).seq hvalue).seq hlocked).seq hcollection).seq htabIndex).seq
    hsaved).seq .rest)

end Field

namespace Catalog

variable {c : Catalog}

/-- A catalog as reading leaves it. -/
structure Genuine (c : Catalog) : Prop where
  fields : ∀ f ∈ c.fields, f.Genuine
  extra : Remainder known c.extra

/-- Everything that was read as a catalog is genuine. -/
theorem genuine_of_decode {v : Json} (h : decode (Node.ofJson v) = .ok c) : c.Genuine := by
  obtain ⟨ms, rfl, -, hall⟩ := Decoder.openRecord_ofJson_iff.mp h
  obtain ⟨_, extra, hfour, hextra, rfl⟩ := Fields.seq_eq_ok_iff.mp hall
  obtain ⟨_, sent, hthree, -, rfl⟩ := Fields.seq_eq_ok_iff.mp hfour
  obtain ⟨_, fields, htwo, hfields, rfl⟩ := Fields.seq_eq_ok_iff.mp hthree
  obtain ⟨_, title, hone, -, rfl⟩ := Fields.seq_eq_ok_iff.mp htwo
  obtain ⟨flavor, -, rfl⟩ := Fields.map_eq_ok_iff.mp hone
  constructor
  · apply Fields.of_withDefault hfields (P := fun fs ↦ ∀ f ∈ fs, f.Genuine) nofun
    intro v fs hread f hf
    obtain ⟨item, hitem⟩ := Decoder.exists_of_mem_list hread hf
    exact Field.genuine_of_decode hitem
  · exact Json.remainder_of_rest hextra

/-- The known members of a catalog, in declared order. -/
def members (c : Catalog) : List (String × Option Json) :=
  [("flavor", some (.string c.flavor)), ("title", some (.string c.title)),
    ("fields", some (.array (c.fields.map Field.toJson))),
    ("attributeToSend", c.attributeToSend.map Json.string)]

private theorem toJson_eq (c : Catalog) :
    c.toJson = .object (Json.told c.members ++ c.extra.entries) := by
  obtain ⟨flavor, title, fields, sent, extra⟩ := c
  cases sent <;> rfl

/-- A written catalog is read back. -/
theorem Genuine.decode_toJson (h : c.Genuine) : decode (Node.ofJson c.toJson) = .ok c := by
  have hwritten : Written known c.members c.extra := ⟨rfl, by decide, h.extra⟩
  rw [toJson_eq]
  refine Decoder.openRecord_ofJson_iff.mpr ⟨_, rfl, hwritten.knownOnce, ?_⟩
  refine Fields.seq_eq_ok (Fields.seq_eq_ok (Fields.seq_eq_ok (Fields.seq_eq_ok
    (Fields.map_eq_ok Catalog.mk (hwritten.required rfl rfl)) (hwritten.withDefault rfl rfl))
    ?fields) ?sent) hwritten.rest_eq
  case fields =>
    apply hwritten.withDefault rfl
    exact Decoder.list_map_toJson fun f hf ↦ (h.fields f hf).decode_toJson
  case sent =>
    apply hwritten.optional Json.string rfl
    exact fun id _ ↦ ⟨nofun, rfl⟩

private theorem steady_decode : decode.Steady := by
  have hflavor : (Fields.required "flavor" Decoder.string).Steady known :=
    .required (by decide) .string
  have htitle : (Fields.withDefault "title" Decoder.string "").Steady known :=
    .withDefault (by decide) .string _
  have hfields : (Fields.withDefault "fields" (Decoder.list Field.decode) []).Steady known :=
    .withDefault (by decide) (.list Field.steady_decode) _
  have hsent : (Fields.optional "attributeToSend" Decoder.string).Steady known :=
    .withDefault (by decide) (.nullable .string) _
  exact .openRecord (((((hflavor.map mk).seq htitle).seq hfields).seq hsent).seq .rest)

/-- Whether a value is read as a catalog, in the order of its members and in key order. -/
def ReadAs (value : Json) (c : Catalog) : Prop :=
  Decoder.ofValue decode value = .ok c ∧ Decoder.ofValue decode value.canonical = .ok c

private theorem Genuine.readAs_toJson (h : c.Genuine) : ReadAs c.toJson c :=
  ⟨h.decode_toJson, steady_decode _ _ h.decode_toJson⟩

/-- The copy that is submitted for a field is genuine. -/
theorem Genuine.prepareForSave (h : c.Genuine) (id : String) : (c.prepareForSave id).Genuine := by
  refine ⟨fun f hsaved ↦ ?_, h.extra⟩
  obtain ⟨f, hf, rfl⟩ := List.mem_map.mp hsaved
  have hfield := h.fields f hf
  refine ⟨hfield.value, fun v hv ↦ ?_, hfield.tabIndex, hfield.extra⟩
  obtain ⟨-, -, rfl⟩ := Option.map_eq_some_iff.mp hv
  exact ⟨nofun, rfl⟩

end Catalog

namespace Metadata

/-- Every catalog of an answer was read from a value. -/
theorem exists_value_of_mem {v : Json} {m : Metadata} (h : ofJson v = .ok m) {c : Catalog}
    (hc : c ∈ m.catalogs) : ∃ value, Catalog.decode (Node.ofJson value) = .ok c := by
  unfold ofJson at h
  split at h
  · next items =>
    cases hlist : Decoder.ofValue (Decoder.list Catalog.decode) (.array items) with
    | error fault =>
      rw [hlist] at h
      cases h
    | ok catalogs =>
      rw [hlist] at h
      obtain rfl := Except.ok.inj h
      exact Decoder.exists_of_mem_list hlist hc
  · next members =>
    cases hrecord : Decoder.ofValue decode (.object members) with
    | error fault =>
      rw [hrecord] at h
      cases h
    | ok m' =>
      rw [hrecord] at h
      obtain rfl : m' = m := Except.ok.inj h
      obtain ⟨-, hfields⟩ := Fields.run_eq_ok_iff.mp hrecord
      obtain ⟨_, locked, hmap, -, rfl⟩ := Fields.seq_eq_ok_iff.mp hfields
      obtain ⟨catalogs, hcatalogs, rfl⟩ := Fields.map_eq_ok_iff.mp hmap
      refine Fields.of_withDefault hcatalogs (P := fun cs ↦ ∀ c ∈ cs, ∃ value,
        Catalog.decode (Node.ofJson value) = .ok c) ?_ ?_ c hc
      · exact fun _ h ↦ absurd h List.not_mem_nil
      · exact fun v cs hread c hc ↦ Decoder.exists_of_mem_list hread hc
  · cases h

/-- A catalog of an answer is read back as it was, and the copy that is submitted for a field is
read back as the catalog with the field named and with every collection emptied; all else in it is
as it came, in the order it came. -/
theorem readAs_of_mem {v : Json} {m : Metadata} (h : ofJson v = .ok m) {c : Catalog}
    (hc : c ∈ m.catalogs) :
    Catalog.ReadAs c.toJson c ∧
      ∀ id, Catalog.ReadAs (c.prepareForSave id).toJson
        { c with
          attributeToSend := some id
          fields := c.fields.map fun f ↦
            { f with collection := f.collection.map fun _ ↦ .array [] } } := by
  obtain ⟨value, hvalue⟩ := exists_value_of_mem h hc
  have hgenuine := Catalog.genuine_of_decode hvalue
  exact ⟨hgenuine.readAs_toJson, fun id ↦ (hgenuine.prepareForSave id).readAs_toJson⟩

/-- An answer with all that may be left out or added: a collection, a collection that is null, a tab
index, marks, and unknown members of the catalog and of a field, out of order and given twice. -/
def mixedAnswer : Json :=
  .array [.object [("x-kind", .object [("b", .null), ("a", .bool true)]),
    ("fields", .array [
      .object [("readOnly", .bool true), ("id", .string "subject"), ("collection",
        .object [("de", .string "Deutsch")]), ("tabindex", .ofNat 4), ("locked", .bool true)],
      .object [("value", .array [.ofNat 1]), ("hint", .null), ("hint", .string "when"),
        ("id", .string "created"), ("collection", .null), ("saved", .bool true)]]),
    ("flavor", .string "dublincore/series"), ("attributeToSend", .null)]]

/-- The catalog that the answer holds. -/
def mixedCatalog : Catalog where
  flavor := "dublincore/series"
  title := ""
  fields := [
    ⟨"subject", .null, true, some (.object [("de", .string "Deutsch")]), some 4, false,
      ⟨[("readOnly", .bool true)]⟩⟩,
    ⟨"created", .array [.ofNat 1], false, none, none, true, ⟨[("hint", .string "when")]⟩⟩]
  attributeToSend := none
  extra := ⟨[("x-kind", .object [("a", .bool true), ("b", .null)])]⟩

/-- The catalog of this answer is read back, and so is the copy for one of its fields. -/
theorem readAs_of_mem_mixedAnswer :
    ofJson mixedAnswer = .ok ⟨[mixedCatalog], false⟩ ∧
      Catalog.ReadAs mixedCatalog.toJson mixedCatalog ∧
      Catalog.ReadAs (mixedCatalog.prepareForSave "created").toJson
        { mixedCatalog with
          attributeToSend := some "created"
          fields := [
            ⟨"subject", .null, true, some (.array []), some 4, false,
              ⟨[("readOnly", .bool true)]⟩⟩,
            ⟨"created", .array [.ofNat 1], false, none, none, true,
              ⟨[("hint", .string "when")]⟩⟩] } := by
  have hanswer : ofJson mixedAnswer = .ok ⟨[mixedCatalog], false⟩ := by rfl
  obtain ⟨hback, hsaved⟩ := readAs_of_mem hanswer List.mem_cons_self
  exact ⟨hanswer, hback, hsaved "created"⟩

end Metadata

end SeriesAcl
