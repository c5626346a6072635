import SeriesAcl.Access.Document

/-!
# Reading written access lists

An access list that is written as a JSON value is read back as it was, so the block of a series that
holds it shows the same entries (`SeriesAccess.entries_written`).
-/

namespace SeriesAcl

open Json (Node Decoder Fields)

/-- A record of one field is read as its only member. -/
theorem Json.Fields.run_singleton {α : Type} (name : String) (d : Decoder α) (value : α)
    (node : Node) :
    Fields.run [name] (Fields.withDefault name d value) [(some name, node)] = d node := by
  simp only [Fields.run, Fields.seq, Fields.pure, Fields.check, Fields.withDefault, Fields.locate,
    Fields.read, if_pos, List.mem_singleton, List.not_mem_nil, if_false]
  cases d node <;> rfl

/-- A function of the field of a record. -/
theorem Json.Fields.run_map {α β : Type} (f : α → β) (known : List String) (fields : Fields α)
    (members : Json.Members) :
    Fields.run known (f <$> fields) members = (Fields.run known fields members).map f := by
  have hmap : (f <$> fields : Fields β) members = (fields members).map f := by
    simp only [Functor.map, Fields.seq, Fields.pure]
    cases fields members <;> rfl
  simp only [Fields.run, Fields.seq, Fields.pure, hmap]
  cases Fields.check known [] 0 members <;> cases fields members <;> simp [Except.map]

/-- A written entry is read back. -/
theorem Entry.decode_toJson (e : Entry) : Entry.decode (Node.ofJson e.toJson) = .ok e := rfl

namespace AclDocument

/-- Written entries are read back in their order. -/
theorem mapM_decode_toJson (entries : List Entry) :
    (Node.ofItems (entries.map Entry.toJson)).mapM Entry.decode = .ok entries := by
  induction entries with
  | nil => rfl
  | cons e rest ih =>
    rw [List.map_cons, Node.ofItems, List.mapM_cons, ih, Entry.decode_toJson]
    rfl

/-- The inner record of a written document is read back. -/
theorem decodeList_listJson (entries : List Entry) :
    decodeList (Node.ofJson (listJson entries)) = .ok entries := by
  rw [listJson, Node.ofJson, Node.ofMembers, Node.ofMembers, decodeList, Decoder.record,
    Fields.run_singleton]
  exact mapM_decode_toJson entries

/-- A written document is read back. -/
theorem ofValue_toJson (d : AclDocument) : Decoder.ofValue decode d.toJson = .ok d := by
  rw [Decoder.ofValue, toJson, Node.ofJson, Node.ofMembers, Node.ofMembers, decode, Decoder.record,
    Fields.run_map, Fields.run_singleton, decodeList_listJson]
  rfl

end AclDocument

/-- A block shows the list that was written into it. -/
theorem SeriesAccess.entries_written (entries : List Entry) (locked : Bool)
    (privileges : Dict Json) :
    (SeriesAccess.mk (AclDocument.mk entries).toJson locked privileges).entries = .ok entries := by
  have h := AclDocument.ofValue_toJson ⟨entries⟩
  unfold AclDocument.toJson at h
  simp only [SeriesAccess.entries, SeriesAccess.document, AclDocument.toJson, h]
  rfl

end SeriesAcl
