import Mathlib.Data.List.Induction
import SeriesAcl.Proofs.Admin.Records

/-!
# Calls on a store

Everything that can be asked of a node, in any order, while operations of a store in memory are made
to fail. A call that fails leaves the store as it is, and one that saves something reaches its own
series only. Lists and themes are read back as they were saved last. Metadata is only recorded: what
is read is what the store began with, so a saved value is read back exactly when it was there before
(`appliesSaves_run_iff`).
-/

namespace SeriesAcl

/-- A call fails and leaves the state as it is, or it is answered and leaves `s'`. -/
def Call.Ends {σ α : Type} (c : Call σ α) (s s' : σ) : Prop :=
  (∃ error, c s = (.error error, s)) ∨ ∃ answer, c s = (.ok answer, s')

private theorem Call.Ends.discard {σ α : Type} {c : Call σ α} {s s' : σ} (h : c.Ends s s') :
    Call.Ends (do discard c) s s' := by
  rcases h with ⟨error, h⟩ | ⟨answer, h⟩
  · refine .inl ⟨error, ?_⟩
    show Call.bind c _ s = _
    rw [Call.bind, h]
  · refine .inr ⟨(), ?_⟩
    show Call.bind c _ s = _
    rw [Call.bind, h]
    rfl

/-- The field that a catalog is submitted for, by its id, and its value. -/
def Catalog.submitted? (c : Catalog) : Option (String × Json) :=
  c.attributeToSend.bind fun id ↦ (c.field? id).map fun f ↦ (id, f.value)

/-- A catalog of a flavor shows a value in its field of an id. -/
def Metadata.Shows (m : Metadata) (flavor id : String) (value : Json) : Prop :=
  ∃ c ∈ m.catalogs, c.flavor = flavor ∧ (c.field? id).map Field.value = some value

/-- What can be asked of a node. -/
inductive NodeCall where
  | currentUser
  | seriesAccess (series : String)
  | saveSeriesAccess (series : String) (update : AccessUpdate)
  | managedAcl (id : Int)
  | listRoles (query : RoleQuery)
  | resourceList (name : String)
  | directoryUsers
  | seriesMetadata (series : String)
  | saveSeriesMetadata (series : String) (catalog : Catalog)
  | seriesTheme (series : String)
  | saveSeriesTheme (series theme : String)
  | deleteSeriesTheme (series : String)
  | feeds

namespace NodeCall

/-- The call on a node, whatever it is answered with. -/
def on {σ : Type} [AdminNode σ] : NodeCall → Call σ Unit
  | .currentUser => do discard AdminNode.currentUser
  | .seriesAccess series => do discard (AdminNode.seriesAccess series)
  | .saveSeriesAccess series update => AdminNode.saveSeriesAccess series update
  | .managedAcl id => do discard (AdminNode.managedAcl id)
  | .listRoles query => do discard (AdminNode.listRoles query)
  | .resourceList name => do discard (AdminNode.resourceList name)
  | .directoryUsers => do discard AdminNode.directoryUsers
  | .seriesMetadata series => do discard (AdminNode.seriesMetadata series)
  | .saveSeriesMetadata series catalog => AdminNode.saveSeriesMetadata series catalog
  | .seriesTheme series => do discard (AdminNode.seriesTheme series)
  | .saveSeriesTheme series theme => AdminNode.saveSeriesTheme series theme
  | .deleteSeriesTheme series => AdminNode.deleteSeriesTheme series
  | .feeds => do discard AdminNode.feeds

/-- The list that a call saves, with its series. -/
def accessSave? : NodeCall → Option (String × AccessUpdate)
  | .saveSeriesAccess series update => some (series, update)
  | _ => none

/-- The catalog that a call saves, with its series. -/
def metadataSave? : NodeCall → Option (String × Catalog)
  | .saveSeriesMetadata series catalog => some (series, catalog)
  | _ => none

/-- The theme that a call gives to a series, or takes from it. -/
def themeChange? : NodeCall → Option (String × Option String)
  | .saveSeriesTheme series theme => some (series, some theme)
  | .deleteSeriesTheme series => some (series, none)
  | _ => none

/-- The series that a call saves something of. -/
def target? : NodeCall → Option String
  | .saveSeriesAccess series _ => some series
  | .saveSeriesMetadata series _ => some series
  | .saveSeriesTheme series _ => some series
  | .deleteSeriesTheme series => some series
  | _ => none

end NodeCall

namespace Store

/-- The store after a call that is answered. -/
def after (s : Store) : NodeCall → Store
  | .saveSeriesAccess series update => s.record series update
  | .listRoles query => { s with roleQueries := s.roleQueries ++ [query] }
  | .saveSeriesMetadata series catalog =>
    { s with savedMetadata := s.savedMetadata ++ [(series, catalog)] }
  | .saveSeriesTheme series theme =>
    { s with
      themeChanges := s.themeChanges ++ [(series, some theme)]
      themes := s.themes.insert series (Dict.empty.insert theme (.string "")) }
  | .deleteSeriesTheme series =>
    { s with
      themeChanges := s.themeChanges ++ [(series, none)]
      themes := s.themes.erase series }
  | _ => s

/-! ### How calls end -/

/-- A call that reads leaves the store as it is. -/
theorem ends_read {α : Type} {call : Call Store α} {s : Store} {answer : Except Error α}
    (h : call s = (answer, s)) : call.Ends s s := by
  cases answer with
  | error error => exact .inl ⟨error, h⟩
  | ok answer => exact .inr ⟨answer, h⟩

private theorem ends_guarded {α : Type} (op : Operation) {call : Call Store α} {s s' : Store}
    (h : call.Ends s s') : (guarded op call).Ends s s' := by
  by_cases hf : op ∈ s.failing
  · exact .inl ⟨_, if_pos hf⟩
  · have hcall : guarded op call s = call s := if_neg hf
    unfold Call.Ends
    rw [hcall]
    exact h

/-- Every call fails and leaves the store as it is, or is answered. -/
theorem ends_on (s : Store) (c : NodeCall) : (c.on (σ := Store)).Ends s (s.after c) := by
  cases c with
  | currentUser => exact (ends_read (guarded_answer .currentUser user s)).discard
  | seriesAccess series => exact (ends_read (s.seriesAccess_eq series)).discard
  | saveSeriesAccess series update => exact ends_guarded _ (.inr ⟨(), rfl⟩)
  | managedAcl id => exact (ends_read (s.managedAcl_eq id)).discard
  | listRoles query =>
    have h : (listRoles query).Ends s (s.after (.listRoles query)) :=
      ends_guarded _ (.inr ⟨page s.roles query, rfl⟩)
    exact h.discard
  | resourceList name => exact (ends_read (guarded_answer .resourceList _ s)).discard
  | directoryUsers => exact (ends_read (guarded_answer .directoryUsers users s)).discard
  | seriesMetadata series => exact (ends_read (s.seriesMetadata_eq series)).discard
  | saveSeriesMetadata series catalog => exact ends_guarded _ (.inr ⟨(), rfl⟩)
  | seriesTheme series => exact (ends_read (s.seriesTheme_eq series)).discard
  | saveSeriesTheme series theme => exact ends_guarded _ (.inr ⟨(), rfl⟩)
  | deleteSeriesTheme series => exact ends_guarded _ (.inr ⟨(), rfl⟩)
  | feeds => exact (ends_read (guarded_answer .feeds feeds s)).discard

/-- The second store is the first one with new lists and themes of one series, or of none, and with
more in its records. -/
structure ChangesOnly (target : Option String) (s s' : Store) : Prop where
  rest : s' = { s with
    access := s'.access
    themes := s'.themes
    savedAccess := s'.savedAccess
    savedMetadata := s'.savedMetadata
    themeChanges := s'.themeChanges
    roleQueries := s'.roleQueries }
  access : ∀ series, target ≠ some series → s'.access.get? series = s.access.get? series
  themes : ∀ series, target ≠ some series → s'.themes.get? series = s.themes.get? series

private theorem metadata_after (s : Store) (c : NodeCall) : (s.after c).metadata = s.metadata := by
  cases c <;> rfl

/-- A call reaches its own series only. -/
theorem changesOnly_after (s : Store) (c : NodeCall) : s.ChangesOnly c.target? (s.after c) := by
  cases c with
  | saveSeriesAccess series update =>
    refine ⟨rfl, fun other h ↦ ?_, fun _ _ ↦ rfl⟩
    exact (s.get?_record series other update).trans (if_neg fun he ↦ h (congrArg some he))
  | saveSeriesTheme series theme =>
    refine ⟨rfl, fun _ _ ↦ rfl, fun other h ↦ ?_⟩
    exact (Dict.get?_insert _ _ _ _).trans (if_neg fun he ↦ h (congrArg some he))
  | deleteSeriesTheme series =>
    refine ⟨rfl, fun _ _ ↦ rfl, fun other h ↦ ?_⟩
    exact (Dict.get?_erase _ _ _).trans (if_neg fun he ↦ h (congrArg some he))
  | currentUser | seriesAccess _ | managedAcl _ | listRoles _ | resourceList _ | directoryUsers
  | seriesMetadata _ | saveSeriesMetadata _ _ | seriesTheme _ | feeds =>
    exact ⟨rfl, fun _ _ ↦ rfl, fun _ _ ↦ rfl⟩

/-! ### What a call adds -/

/-- The themes of a series after a record of changes. -/
def themeAfter (s : Store) (changes : List (String × Option String)) (series : String) :
    Option SeriesTheme :=
  match latest? changes series with
  | none => s.themes.get? series
  | some change => change.map fun theme ↦ Dict.empty.insert theme (.string "")

private theorem themeAfter_concat (s : Store) (changes : List (String × Option String))
    (series : String) (change : Option String) (other : String) :
    s.themeAfter (changes ++ [(series, change)]) other =
      if series = other then change.map fun theme ↦ Dict.empty.insert theme (.string "")
      else s.themeAfter changes other := by
  by_cases h : series = other <;> simp [themeAfter, latest?_concat, h]

private theorem records_after (s : Store) (c : NodeCall) :
    (s.after c).savedAccess = s.savedAccess ++ c.accessSave?.toList ∧
      (s.after c).savedMetadata = s.savedMetadata ++ c.metadataSave?.toList ∧
      (s.after c).themeChanges = s.themeChanges ++ c.themeChange?.toList := by
  cases c <;>
    simp [after, record, NodeCall.accessSave?, NodeCall.metadataSave?, NodeCall.themeChange?]

private theorem get?_access_after {first s : Store} {saves : List (String × AccessUpdate)}
    (h : ∀ series, s.access.get? series = first.blockAfter saves series) (c : NodeCall)
    (series : String) :
    (s.after c).access.get? series = first.blockAfter (saves ++ c.accessSave?.toList) series := by
  cases c with
  | saveSeriesAccess target update => exact get?_record_eq_blockAfter h target update series
  | _ => simpa [after, NodeCall.accessSave?] using h series

private theorem get?_themes_after {first s : Store} {changes : List (String × Option String)}
    (h : ∀ series, s.themes.get? series = first.themeAfter changes series) (c : NodeCall)
    (series : String) :
    (s.after c).themes.get? series =
      first.themeAfter (changes ++ c.themeChange?.toList) series := by
  cases c with
  | saveSeriesTheme target theme =>
    refine (Dict.get?_insert _ _ _ _).trans ?_
    rw [h]
    exact (first.themeAfter_concat changes target (some theme) series).symm
  | deleteSeriesTheme target =>
    refine (Dict.get?_erase _ _ _).trans ?_
    rw [h]
    exact (first.themeAfter_concat changes target none series).symm
  | _ => simpa [after, record, NodeCall.themeChange?] using h series

end Store

/-! ### Runs -/

/-- What happens to a store: it is called, or other operations fail from now on. -/
inductive NodeEvent where
  | call (c : NodeCall)
  | fail (operations : List Operation)

/-- A store, and the calls that it answered so far. -/
structure CallLog where
  store : Store
  served : List NodeCall

namespace CallLog

/-- The log after an event. -/
def step (log : CallLog) : NodeEvent → CallLog
  | .call c =>
    match c.on log.store with
    | (.ok (), store) => ⟨store, log.served ++ [c]⟩
    | (.error _, store) => ⟨store, log.served⟩
  | .fail operations => { log with store := { log.store with failing := operations } }

/-- The log of some events from a store on. -/
def run (first : Store) (events : List NodeEvent) : CallLog :=
  events.foldl step ⟨first, []⟩

/-- The access lists that were saved. -/
def accessSaves (log : CallLog) : List (String × AccessUpdate) :=
  log.served.filterMap NodeCall.accessSave?

/-- The catalogs that were saved. -/
def metadataSaves (log : CallLog) : List (String × Catalog) :=
  log.served.filterMap NodeCall.metadataSave?

/-- The changes of themes that were saved. -/
def themeChanges (log : CallLog) : List (String × Option String) :=
  log.served.filterMap NodeCall.themeChange?

/-- What a store has after the calls that it answered. -/
structure Follows (first : Store) (log : CallLog) : Prop where
  savedAccess : log.store.savedAccess = first.savedAccess ++ log.accessSaves
  savedMetadata : log.store.savedMetadata = first.savedMetadata ++ log.metadataSaves
  themeChanges : log.store.themeChanges = first.themeChanges ++ log.themeChanges
  access : ∀ series, log.store.access.get? series = first.blockAfter log.accessSaves series
  themes : ∀ series, log.store.themes.get? series = first.themeAfter log.themeChanges series
  metadata : log.store.metadata = first.metadata

/-- An answered call reaches the record and the contents alike. -/
theorem Follows.serve {first s : Store} {served : List NodeCall} (h : Follows first ⟨s, served⟩)
    (c : NodeCall) : Follows first ⟨s.after c, served ++ [c]⟩ := by
  have concat : ∀ {α : Type} (f : NodeCall → Option α),
      (served ++ [c]).filterMap f = served.filterMap f ++ (f c).toList := by
    intro α f
    rw [List.filterMap_append]
    cases hc : f c <;> simp [hc]
  obtain ⟨haccess, hmetadata, hthemes⟩ := s.records_after c
  exact {
    savedAccess := by
      rw [accessSaves, concat, haccess, h.savedAccess, List.append_assoc]
      rfl
    savedMetadata := by
      rw [metadataSaves, concat, hmetadata, h.savedMetadata, List.append_assoc]
      rfl
    themeChanges := by
      rw [CallLog.themeChanges, concat, hthemes, h.themeChanges, List.append_assoc]
      rfl
    access := fun series ↦ by
      rw [accessSaves, concat]
      exact Store.get?_access_after h.access c series
    themes := fun series ↦ by
      rw [CallLog.themeChanges, concat]
      exact Store.get?_themes_after h.themes c series
    metadata := (Store.metadata_after s c).trans h.metadata }

private theorem step_call (log : CallLog) (c : NodeCall) :
    (∃ error, c.on log.store = (.error error, log.store)) ∧ log.step (.call c) = log ∨
      c.on log.store = (.ok (), log.store.after c) ∧
        log.step (.call c) = ⟨log.store.after c, log.served ++ [c]⟩ := by
  rcases log.store.ends_on c with ⟨error, h⟩ | ⟨⟨⟩, h⟩
  · refine .inl ⟨⟨error, h⟩, ?_⟩
    rw [step, h]
  · refine .inr ⟨h, ?_⟩
    rw [step, h]

private theorem Follows.step {first : Store} {log : CallLog} (h : Follows first log)
    (event : NodeEvent) :
    Follows first (log.step event) := by
  cases event with
  | fail operations => exact ⟨h.1, h.2, h.3, h.4, h.5, h.6⟩
  | call c =>
    rcases log.step_call c with ⟨-, hlog⟩ | ⟨-, hlog⟩
    · rw [hlog]
      exact h
    · rw [hlog]
      exact h.serve c

/-- After any events the store is the first one with what was saved. -/
theorem follows_run (first : Store) (events : List NodeEvent) :
    Follows first (run first events) := by
  induction events using List.reverseRecOn with
  | nil =>
    have h : ∀ {α : Type} (record : List α), record = record ++ [] :=
      fun record ↦ (List.append_nil record).symm
    exact ⟨h _, h _, h _, fun _ ↦ rfl, fun _ ↦ rfl, rfl⟩
  | append_singleton events event ih =>
    rw [run, List.foldl_append]
    exact ih.step event

/-! ### What a later read shows -/

/-- A store keeps what it is asked to save. Calls that fail change nothing, and others only what is
about their own series; all saves are in the record; the list that is read is the last saved one, in
a block with the lock and the privileges that it had, and the theme is the last saved one. -/
structure KeepsSaves (first : Store) (log : CallLog) : Prop where
  refused : ∀ (c : NodeCall) error,
    (c.on log.store).1 = .error error → (c.on log.store).2 = log.store
  reaches : ∀ c : NodeCall, log.store.ChangesOnly c.target? (c.on log.store).2
  savedAccess : log.store.savedAccess = first.savedAccess ++ log.accessSaves
  savedMetadata : log.store.savedMetadata = first.savedMetadata ++ log.metadataSaves
  themeChanges : log.store.themeChanges = first.themeChanges ++ log.themeChanges
  access : ∀ series update, Store.latest? log.accessSaves series = some update →
    .seriesAccess ∉ log.store.failing →
    ∃ block, AdminNode.seriesAccess series log.store = (.ok ⟨some block⟩, log.store) ∧
      block.entries = .ok update.entries ∧
      block.locked = ((first.access.get? series).getD SeriesAccess.empty).locked ∧
      block.privileges = ((first.access.get? series).getD SeriesAccess.empty).privileges
  theme : ∀ series change, Store.latest? log.themeChanges series = some change →
    .seriesTheme ∉ log.store.failing →
    ∃ theme, AdminNode.seriesTheme series log.store = (.ok theme, log.store) ∧
      theme.keys = change.toList

/-- A store keeps what it is asked to save, and metadata shows the value that the last saved catalog
submits. -/
structure AppliesSaves (first : Store) (log : CallLog) : Prop extends KeepsSaves first log where
  metadata : ∀ series catalog id value, Store.latest? log.metadataSaves series = some catalog →
    catalog.submitted? = some (id, value) → .seriesMetadata ∉ log.store.failing →
    ∃ m, AdminNode.seriesMetadata series log.store = (.ok m, log.store) ∧
      m.Shows catalog.flavor id value

private theorem Follows.readAccess {first : Store} {log : CallLog} (h : Follows first log)
    {series : String} {update : AccessUpdate}
    (hlast : Store.latest? log.accessSaves series = some update)
    (hf : .seriesAccess ∉ log.store.failing) :
    AdminNode.seriesAccess series log.store =
      (.ok ⟨some { (first.access.get? series).getD SeriesAccess.empty with
        acl := (AclDocument.mk update.entries).toJson }⟩, log.store) := by
  have hsaved : Store.lastSave? log.accessSaves series = some update := hlast
  refine (Store.seriesAccess_eq _ _).trans ?_
  rw [if_neg hf, h.access, Store.blockAfter, hsaved]

private theorem Follows.readTheme {first : Store} {log : CallLog} (h : Follows first log)
    {series : String} {change : Option String}
    (hlast : Store.latest? log.themeChanges series = some change)
    (hf : .seriesTheme ∉ log.store.failing) :
    AdminNode.seriesTheme series log.store =
      (.ok ((change.map fun theme ↦ Dict.empty.insert theme (.string "")).getD Dict.empty),
        log.store) := by
  rw [Store.seriesTheme_eq, if_neg hf, h.themes, Store.themeAfter, hlast]

/-- Metadata is read as it was at first. -/
theorem Follows.readMetadata_iff {first : Store} {log : CallLog} (h : Follows first log)
    {series : String} (hf : .seriesMetadata ∉ log.store.failing) (m : Metadata) :
    AdminNode.seriesMetadata series log.store = (.ok m, log.store) ↔
      first.metadata.get? series = some m := by
  have hread : AdminNode.seriesMetadata series log.store = _ :=
    Store.seriesMetadata_eq log.store series
  rw [hread, if_neg hf, h.metadata]
  cases first.metadata.get? series <;> simp

private theorem Follows.keepsSaves {first : Store} {log : CallLog} (h : Follows first log) :
    KeepsSaves first log where
  refused c error hc := by
    rcases log.store.ends_on c with ⟨_, he⟩ | ⟨_, he⟩
    · rw [he]
    · rw [he] at hc
      cases hc
  reaches c := by
    rcases log.store.ends_on c with ⟨_, he⟩ | ⟨_, he⟩
    · rw [he]
      exact ⟨rfl, fun _ _ ↦ rfl, fun _ _ ↦ rfl⟩
    · rw [he]
      exact log.store.changesOnly_after c
  savedAccess := h.savedAccess
  savedMetadata := h.savedMetadata
  themeChanges := h.themeChanges
  access series update hlast hf :=
    ⟨_, h.readAccess hlast hf, SeriesAccess.entries_written _ _ _, rfl, rfl⟩
  theme series change hlast hf := by
    refine ⟨_, h.readTheme hlast hf, ?_⟩
    cases change <;> rfl

/-- After any calls a store keeps what it was asked to save. Metadata too shows what was submitted
last exactly where the metadata that the store began with shows it. -/
theorem appliesSaves_run_iff (first : Store) (events : List NodeEvent) :
    KeepsSaves first (run first events) ∧
      (AppliesSaves first (run first events) ↔
        ∀ series catalog id value,
          Store.latest? (run first events).metadataSaves series = some catalog →
          catalog.submitted? = some (id, value) →
          .seriesMetadata ∉ (run first events).store.failing →
          ∃ m, first.metadata.get? series = some m ∧ m.Shows catalog.flavor id value) := by
  have h := follows_run first events
  refine ⟨h.keepsSaves, ?_, ?_⟩
  · intro happlies series catalog id value hlast hvalue hf
    obtain ⟨m, hread, hshows⟩ := happlies.metadata series catalog id value hlast hvalue hf
    exact ⟨m, (h.readMetadata_iff hf m).mp hread, hshows⟩
  · intro hfirst
    refine ⟨h.keepsSaves, ?_⟩
    intro series catalog id value hlast hvalue hf
    obtain ⟨m, hm, hshows⟩ := hfirst series catalog id value hlast hvalue hf
    exact ⟨m, (h.readMetadata_iff hf m).mpr hm, hshows⟩

/-- A catalog with one field, the title, that is submitted to be saved. -/
def titleCatalog (title : String) : Catalog :=
  Catalog.prepareForSave
    ⟨Catalog.mainFlavor, "", [⟨"title", .string title, false, none, none, false, Dict.empty⟩], none,
      Dict.empty⟩ "title"

/-- A store with a series that has a title. -/
def titledStore : Store :=
  { Store.empty with metadata := Dict.empty.insert "s" ⟨[titleCatalog "Old"], false⟩ }

/-- A new title is recorded, and the old one is read. -/
theorem not_appliesSaves_titledStore :
    ¬ AppliesSaves titledStore
      (run titledStore [.call (.saveSeriesMetadata "s" (titleCatalog "New"))]) := by
  intro h
  obtain ⟨m, hread, c, hc, -, hvalue⟩ :=
    h.metadata "s" (titleCatalog "New") "title" (.string "New") rfl rfl (by decide)
  have hm : m = ⟨[titleCatalog "Old"], false⟩ := (Except.ok.inj (congrArg Prod.fst hread)).symm
  rw [hm] at hc
  rw [List.mem_singleton.mp hc] at hvalue
  exact absurd (Json.string.inj (Option.some.inj hvalue)) (by decide)

end CallLog

end SeriesAcl
