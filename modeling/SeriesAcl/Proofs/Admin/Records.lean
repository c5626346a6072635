import SeriesAcl.Access.Role
import SeriesAcl.Admin.Store
import SeriesAcl.Proofs.Access.Documents

/-!
# The record of saves

A store in memory applies the access lists that it records. So the block of a series is the first
one with the last list recorded since (`blockAfter`), and that list is what a reader of the series
is shown (`entries_blockAfter`).
-/

namespace SeriesAcl.Store

/-- The store with an access list recorded and applied. -/
def record (s : Store) (series : String) (update : AccessUpdate) : Store :=
  { s with
    savedAccess := s.savedAccess ++ [(series, update)]
    access := s.access.insert series
      { (s.access.get? series).getD SeriesAccess.empty with
        acl := (AclDocument.mk update.entries).toJson } }

/-- A save is recorded unless saves are made to fail. -/
theorem saveSeriesAccess_eq (s : Store) (series : String) (update : AccessUpdate) :
    saveSeriesAccess series update s =
      if .saveSeriesAccess ∈ s.failing then
        (.error (Error.operationFailed Operation.saveSeriesAccess.name), s)
      else (.ok (), s.record series update) :=
  rfl

/-- A catalog is recorded unless that is made to fail. -/
theorem saveSeriesMetadata_eq (s : Store) (series : String) (catalog : Catalog) :
    saveSeriesMetadata series catalog s =
      if .saveSeriesMetadata ∈ s.failing then
        (.error (Error.operationFailed Operation.saveSeriesMetadata.name), s)
      else (.ok (), { s with savedMetadata := s.savedMetadata ++ [(series, catalog)] }) :=
  rfl

/-- A call that leaves the store as it is does so too when it can be made to fail. -/
theorem guarded_eq {α : Type} (op : Operation) {call : Call Store α} {answer : Except Error α}
    {s : Store} (h : call s = (answer, s)) :
    guarded op call s =
      (if op ∈ s.failing then .error (Error.operationFailed op.name) else answer, s) := by
  unfold guarded
  split
  · rfl
  · exact h

/-- An answer out of the store leaves it as it is. -/
theorem guarded_answer {α : Type} (op : Operation) (answer : Store → α) (s : Store) :
    guarded op (fun s ↦ (.ok (answer s), s)) s =
      (if op ∈ s.failing then .error (Error.operationFailed op.name) else .ok (answer s), s) :=
  guarded_eq op rfl

/-- The access block of a series is the one that is stored, if the call does not fail. -/
theorem seriesAccess_eq (s : Store) (series : String) :
    seriesAccess series s =
      (if .seriesAccess ∈ s.failing then .error (Error.operationFailed Operation.seriesAccess.name)
        else match s.access.get? series with
          | some block => .ok ⟨some block⟩
          | none => .error (Error.seriesNotFound series), s) := by
  apply guarded_eq
  cases s.access.get? series <;> rfl

/-- A managed list is the first one with its id, if the call does not fail. -/
theorem managedAcl_eq (s : Store) (id : Int) :
    managedAcl id s =
      (if .managedAcl ∈ s.failing then .error (Error.operationFailed Operation.managedAcl.name)
        else match s.managed.find? fun m ↦ m.id == id with
          | some m => .ok m
          | none => .error (Error.managedAclNotFound id), s) := by
  apply guarded_eq
  cases s.managed.find? fun m ↦ m.id == id <;> rfl

/-- The metadata of a series is what is stored, if the call does not fail. -/
theorem seriesMetadata_eq (s : Store) (series : String) :
    seriesMetadata series s =
      (if .seriesMetadata ∈ s.failing then
          .error (Error.operationFailed Operation.seriesMetadata.name)
        else match s.metadata.get? series with
          | some m => .ok m
          | none => .error (Error.seriesNotFound series), s) := by
  apply guarded_eq
  cases s.metadata.get? series <;> rfl

/-- The theme of a series is the one that is stored, if the call does not fail. -/
theorem seriesTheme_eq (s : Store) (series : String) :
    AdminNode.seriesTheme series s =
      (if .seriesTheme ∈ s.failing then .error (Error.operationFailed Operation.seriesTheme.name)
        else .ok ((s.themes.get? series).getD Dict.empty), s) :=
  guarded_answer .seriesTheme (fun s ↦ (s.themes.get? series).getD Dict.empty) s

/-- The second store is the first one after some queries for roles. -/
def Reads (s s' : Store) : Prop :=
  s' = { s with roleQueries := s'.roleQueries }

/-- A store that was not asked anything has only been read. -/
theorem Reads.refl (s : Store) : s.Reads s := rfl

/-- A query for roles is recorded and changes nothing else. -/
theorem reads_listRoles (s : Store) (q : RoleQuery) : s.Reads (listRoles q s).2 := by
  unfold listRoles guarded
  split <;> rfl

/-- The access block of a series can be read, and so can the list in it. -/
structure Readable (s : Store) (series : String) (block : SeriesAccess) (entries : List Entry) :
    Prop where
  allowed : .seriesAccess ∉ s.failing
  found : s.access.get? series = some block
  decoded : block.entries = .ok entries

/-- A series has one list to be read. -/
theorem Readable.unique {s : Store} {series : String} {block block' : SeriesAccess}
    {entries entries' : List Entry} (h : s.Readable series block entries)
    (h' : s.Readable series block' entries') : block' = block ∧ entries' = entries := by
  obtain rfl := Option.some.inj (h'.found.symm.trans h.found)
  exact ⟨rfl, Except.ok.inj (h'.decoded.symm.trans h.decoded)⟩

/-- No list changes, in the record or in place. -/
theorem Reads.lists_eq {s s' : Store} (h : s.Reads s') :
    s'.savedAccess = s.savedAccess ∧ s'.access = s.access := by
  rw [h]
  exact ⟨rfl, rfl⟩

/-- Queries leave what fails. -/
theorem Reads.failing_eq {s s' : Store} (h : s.Reads s') : s'.failing = s.failing := by
  rw [h]

/-- The last value that a record has for a series. -/
def latest? {α : Type} (record : List (String × α)) (series : String) : Option α :=
  ((record.filter fun entry ↦ entry.1 = series).getLast?).map Prod.snd

/-- A record at the end is the latest one of its series, and leaves those of the others. -/
theorem latest?_concat {α : Type} (record : List (String × α)) (series other : String) (value : α) :
    latest? (record ++ [(series, value)]) other =
      if series = other then some value else latest? record other := by
  by_cases h : series = other <;> simp [latest?, h]

/-- The last list that a record of saves has for a series. -/
def lastSave? (saves : List (String × AccessUpdate)) (series : String) : Option AccessUpdate :=
  ((saves.filter fun save ↦ save.1 = series).getLast?).map Prod.snd

/-- The access block of a series after a record of saves. -/
def blockAfter (s : Store) (saves : List (String × AccessUpdate)) (series : String) :
    Option SeriesAccess :=
  match lastSave? saves series with
  | none => s.access.get? series
  | some update =>
    some { (s.access.get? series).getD SeriesAccess.empty with
      acl := (AclDocument.mk update.entries).toJson }

private theorem lastSave?_concat (saves : List (String × AccessUpdate)) (series other : String)
    (update : AccessUpdate) :
    lastSave? (saves ++ [(series, update)]) other =
      if series = other then some update else lastSave? saves other :=
  latest?_concat saves series other update

/-- A recorded save gives the series its list, and leaves the lists of other series. -/
theorem get?_record (s : Store) (series other : String) (update : AccessUpdate) :
    (s.record series update).access.get? other =
      if series = other then
        some { (s.access.get? series).getD SeriesAccess.empty with
          acl := (AclDocument.mk update.entries).toJson }
      else s.access.get? other :=
  Dict.get?_insert _ _ _ _

/-- A series shows the list that was recorded for it. -/
theorem exists_block_record (s : Store) (series : String) (update : AccessUpdate) :
    ∃ block, (s.record series update).access.get? series = some block ∧
      block.entries = .ok update.entries := by
  refine ⟨_, by rw [get?_record, if_pos rfl], ?_⟩
  exact SeriesAccess.entries_written _ _ _

/-- A recorded list reaches the block of its series and no other block. -/
theorem get?_record_eq_blockAfter {first s : Store} {saves : List (String × AccessUpdate)}
    (h : ∀ series, s.access.get? series = first.blockAfter saves series) (series : String)
    (update : AccessUpdate) (other : String) :
    (s.record series update).access.get? other =
      first.blockAfter (saves ++ [(series, update)]) other := by
  rw [get?_record, blockAfter, lastSave?_concat]
  split
  · next he =>
    subst he
    rw [h, blockAfter]
    cases lastSave? saves series <;> rfl
  · exact h other

/-- The entries of a block with a recorded list are those of the list. -/
theorem entries_blockAfter {s : Store} {saves : List (String × AccessUpdate)} {series : String}
    {update : AccessUpdate} (h : lastSave? saves series = some update) :
    ∃ block, s.blockAfter saves series = some block ∧ block.entries = .ok update.entries := by
  refine ⟨_, by rw [blockAfter, h], ?_⟩
  exact SeriesAccess.entries_written _ _ _

/-- After a recorded save its list is what the series shows. -/
theorem Readable.record {s : Store} (h : .seriesAccess ∉ s.failing) (series : String)
    (update : AccessUpdate) :
    (s.record series update).Readable series
      { (s.access.get? series).getD SeriesAccess.empty with
        acl := (AclDocument.mk update.entries).toJson } update.entries where
  allowed := h
  found := by rw [get?_record, if_pos rfl]
  decoded := SeriesAccess.entries_written _ _ _

/-- A list that is put in its place can be read. -/
theorem readable_putList {s : Store} (h : .seriesAccess ∉ s.failing) (series : String)
    (entries : List Entry) (locked : Bool) :
    (s.putList series entries locked).Readable series
      ⟨(AclDocument.mk entries).toJson, locked, Dict.empty⟩ entries where
  allowed := h
  found := by rw [putList, Dict.get?_insert, if_pos rfl]
  decoded := SeriesAccess.entries_written _ _ _

/-- The list of a private series that one more role may edit. -/
def privateList : List Entry :=
  [Entry.allowed Role.privateMember Action.castView, Entry.allowed "ROLE_A" Action.read,
    Entry.allowed "ROLE_A" Action.write]

/-- A store with a private series. -/
def privateStore : Store :=
  empty.putList "s" privateList false

end SeriesAcl.Store
