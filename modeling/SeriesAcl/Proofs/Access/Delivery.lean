import SeriesAcl.Proofs.Access.Documents
import SeriesAcl.Proofs.Json.Compact
import SeriesAcl.Proofs.Json.Trees

/-!
# Delivering access lists

A list that is sent to a node comes back as it was, whether the node hands out the text that it was
sent or the document itself, and also when that answer is read off its own text
(`AccessUpdate.entries_delivered`).
-/

namespace SeriesAcl

open Json (Node Decoder Fields)

/-- What a node answers about a series whose list it holds in some form. -/
def AccessEnvelope.answer (acl : Json) (locked : Bool) : Json :=
  .object [("series_access", .object [("acl", acl), ("locked", .bool locked)])]

/-- An answer is read as the block that it holds, with the list in canonical form. -/
theorem AccessEnvelope.ofValue_answer (acl : Json) (locked : Bool) :
    Decoder.ofValue decode (answer acl locked) =
      .ok ⟨some ⟨acl.canonical, locked, Dict.empty⟩⟩ := by
  have hblock :
      SeriesAccess.decode (Node.ofJson (.object [("acl", acl), ("locked", .bool locked)])) =
        .ok ⟨acl.canonical, locked, Dict.empty⟩ := by
    refine Fields.run_eq_ok rfl (Fields.seq_eq_ok (Fields.seq_eq_ok (Fields.map_eq_ok _ ?_) ?_) ?_)
    · exact Fields.withDefault_eq_ok rfl (Decoder.any_ofJson acl)
    · exact Fields.withDefault_eq_ok rfl rfl
    · exact Fields.withDefault_absent rfl
  refine Fields.run_eq_ok rfl (Fields.map_eq_ok _ (Fields.withDefault_eq_ok rfl ?_))
  show (SeriesAccess.decode _).map some = _
  rw [hblock]
  rfl

/-! ### Documents -/

private theorem Entry.plain_toJson (e : Entry) {room : Nat} (h : 0 < room) : e.toJson.Plain room :=
  ⟨h, trivial, trivial, trivial, trivial⟩

/-- The members of an entry stand in key order. -/
theorem Entry.canonical_toJson (e : Entry) : e.toJson.canonical = e.toJson := by
  have haction : "action" < "allow" ∧ "action" < "role" := by decide
  have hallow : "allow" < "role" := by decide
  have hsorted : (Dict.mk [("action", Json.string e.action), ("allow", .bool e.allow),
      ("role", .string e.role)]).Sorted := by
    refine List.pairwise_cons.mpr ⟨?_, List.pairwise_pair.mpr hallow⟩
    rw [List.forall_mem_cons, List.forall_mem_singleton]
    exact haction
  exact congrArg Json.object (Dict.entries_ofList hsorted)

namespace AclDocument

private theorem itemsPlain_entries (entries : List Entry) {room : Nat} (h : 0 < room) :
    Json.ItemsPlain room (entries.map Entry.toJson) := by
  induction entries with
  | nil => trivial
  | cons e rest ih => exact ⟨e.plain_toJson h, ih⟩

/-- A document nests four levels deep. -/
theorem plain_toJson (d : AclDocument) {room : Nat} (h : 4 ≤ room) : d.toJson.Plain room := by
  refine ⟨?_, ⟨?_, ⟨?_, itemsPlain_entries d.entries ?_⟩, trivial⟩, trivial⟩ <;> omega

private theorem canonicalItems_entries (entries : List Entry) :
    Json.canonicalItems (entries.map Entry.toJson) = entries.map Entry.toJson := by
  induction entries with
  | nil => rfl
  | cons e rest ih => rw [List.map_cons, Json.canonicalItems, e.canonical_toJson, ih]

private theorem canonical_toJson (d : AclDocument) : d.toJson.canonical = d.toJson := by
  have h : (listJson d.entries).canonical = listJson d.entries := by
    rw [listJson, Json.canonical, Json.canonicalMembers, Json.canonicalMembers, Json.canonical,
      canonicalItems_entries]
    rfl
  rw [toJson, Json.canonical, Json.canonicalMembers, Json.canonicalMembers, h]
  rfl

end AclDocument

/-! ### Delivery -/

/-- A form in which a node holds a list: the block of a series that has the form shows the list, and
so does the block that is read off the text of the node's answer. -/
structure Delivers (acl : Json) (entries : List Entry) : Prop where
  block : ∀ locked privileges, (SeriesAccess.mk acl locked privileges).entries = .ok entries
  answer : ∀ locked, ∃ block,
    Decoder.ofText AccessEnvelope.decode (AccessEnvelope.answer acl locked).compact =
        .ok ⟨some block⟩ ∧
      block.locked = locked ∧ block.entries = .ok entries

/-- A form that is plain and canonical comes out of the answer as it is. -/
theorem Delivers.of_block {acl : Json} {entries : List Entry}
    (hplain : acl.Plain (Json.Reader.maxDepth - 2)) (hcanonical : acl.canonical = acl)
    (h : ∀ locked privileges, (SeriesAccess.mk acl locked privileges).entries = .ok entries) :
    Delivers acl entries where
  block := h
  answer locked := by
    refine ⟨⟨acl, locked, Dict.empty⟩, ?_, rfl, h locked Dict.empty⟩
    have hanswer : (AccessEnvelope.answer acl locked).Plain Json.Reader.maxDepth :=
      ⟨by decide, ⟨by decide, hplain, trivial, trivial⟩, trivial⟩
    rw [Json.ofText_compact _ hanswer, AccessEnvelope.ofValue_answer, hcanonical]

/-- The block with the text of a document shows its entries. -/
theorem SeriesAccess.entries_text (entries : List Entry) (locked : Bool)
    (privileges : Dict Json) :
    (SeriesAccess.mk (.string (AclDocument.mk entries).text) locked privileges).entries =
      .ok entries := by
  have hplain := (AclDocument.mk entries).plain_toJson (show 4 ≤ Json.Reader.maxDepth by decide)
  simp only [SeriesAccess.entries, SeriesAccess.document, AclDocument.text,
    Json.ofText_compact _ hplain, AclDocument.ofValue_toJson]
  rfl

/-- A list comes back from the node as it was sent: the text of it in the form fields of a request
delivers it when the node hands that text out again, and so does the document itself. -/
theorem AccessUpdate.entries_delivered (entries : List Entry) (overrideEvents : Bool) :
    ∃ text, (AccessUpdate.mk entries overrideEvents).formFields =
        [("acl", text), ("override", toString overrideEvents)] ∧
      Delivers (.string text) entries ∧ Delivers (AclDocument.mk entries).toJson entries := by
  refine ⟨(AclDocument.mk entries).text, rfl, ?_, ?_⟩
  · exact .of_block trivial rfl (SeriesAccess.entries_text entries)
  · exact .of_block (AclDocument.plain_toJson _ (by decide)) (AclDocument.canonical_toJson _)
      (SeriesAccess.entries_written entries)

end SeriesAcl
