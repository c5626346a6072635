import Mathlib.Data.List.Induction
import SeriesAcl.Editing.Screen
import SeriesAcl.Proofs.Admin.Calls
import SeriesAcl.Proofs.Editing.Loading
import SeriesAcl.Proofs.Editing.Operations

/-!
# The operations of a screen

All that can be asked of the screen of a series, as one type, and screens that are worked on while
their node changes. Throughout a run the permissions section is about the series on the screen
(`inStep_run`). On a store in memory opening is one reading of its contents (`load_eq`).
-/

namespace SeriesAcl

/-- What can be asked of a screen. The themes that are loaded are edited by any function. -/
inductive ScreenOp where
  | open
  | change (series : String) (rolePage : Nat)
  | setValue (flavor field : String) (value : Json)
  | saveMetadata (flavor field : String)
  | editThemes (edit : ThemeChoice → ThemeChoice)
  | saveTheme (theme : Option String)
  | access (op : SeriesOp)

namespace Screen

variable {σ ν : Type} [AdminNode σ] [NoteSink ν]

/-- Carry out an operation. -/
def perform (s : Screen) (op : ScreenOp) (desk : Desk σ ν) : Turn Screen σ ν Unit :=
  match op with
  | .open => s.load desk
  | .change series rolePage => s.change series rolePage desk
  | .setValue flavor field value =>
    ⟨(s.setValue flavor field value).1, (s.setValue flavor field value).2, desk⟩
  | .saveMetadata flavor field => s.saveMetadata flavor field desk
  | .editThemes edit => ⟨.ok (), { s with themes := s.themes.map edit }, desk⟩
  | .saveTheme theme => s.saveTheme theme desk
  | .access op => (s.editAccess (fun e desk ↦ e.perform op desk) desk).map fun _ ↦ ()

end Screen

/-- A screen and the desk that it is on. -/
structure Console (σ ν : Type) where
  screen : Screen
  desk : Desk σ ν

/-- What happens at a console: the screen is operated, or the node changes on its own. -/
inductive ConsoleEvent (σ : Type) where
  | act (op : ScreenOp)
  | node (change : σ → σ)

namespace Console

variable {σ ν : Type} [AdminNode σ] [NoteSink ν]

/-- The turn of the screen. -/
def turn (x : Console σ ν) (op : ScreenOp) : Turn Screen σ ν Unit :=
  x.screen.perform op x.desk

/-- The console after an event. -/
def step (x : Console σ ν) : ConsoleEvent σ → Console σ ν
  | .act op => ⟨(x.turn op).editor, (x.turn op).desk⟩
  | .node change => { x with desk := { x.desk with node := change x.desk.node } }

/-- A console with a new screen after some events. -/
def run (series : String) (rolePage : Nat) (desk : Desk σ ν) (events : List (ConsoleEvent σ)) :
    Console σ ν :=
  events.foldl step ⟨Screen.make series rolePage, desk⟩

/-- A run that is one step longer. -/
theorem run_concat (series : String) (rolePage : Nat) (desk : Desk σ ν)
    (events : List (ConsoleEvent σ)) (event : ConsoleEvent σ) :
    run series rolePage desk (events ++ [event]) =
      (run series rolePage desk events).step event := by
  rw [run, List.foldl_append]
  rfl

end Console

/-! ### The series of the permissions section -/

namespace SeriesEditor

variable {σ ν : Type} [AdminNode σ] [NoteSink ν]

/-- What neither the pickers nor an access list say anything about is as it is once the user and the
directory are known. -/
theorem load_congr {α : Type} (f : SeriesEditor → α)
    (hpick : ∀ (e : SeriesEditor) actions roles,
      f { e with actions := actions, roles := roles } = f e)
    (hshow : ∀ (e : SeriesEditor) block entries (desk : Desk σ ν),
      f (e.showAccess block entries desk).1 = f e)
    (e : SeriesEditor) (desk : Desk σ ν) : f (e.load desk).editor = f (e.introduced desk.node) := by
  have hpickers : ∀ (e' : SeriesEditor) (desk : Desk σ ν),
      f (e'.loadPickers desk).editor = f e' := by
    intro e' desk
    obtain ⟨actions, roles, _, h⟩ := e'.exists_loadPickers_eq desk
    rw [h]
    exact hpick e' actions roles
  rw [load_eq]
  split
  · rfl
  · exact hpickers _ _
  · next block desk' _ =>
    cases block.entries with
    | error error => rfl
    | ok entries => exact (hpickers _ _).trans (hshow _ block entries desk')

private theorem series_load (e : SeriesEditor) (desk : Desk σ ν) :
    (e.load desk).editor.series = e.series := by
  refine Eq.trans ?_ (e.series_introduced desk.node)
  refine load_congr SeriesEditor.series (fun _ _ _ ↦ rfl) ?_ e desk
  intro e' block entries desk'
  exact (e'.showAccess_eq block entries desk').1.series.trans (e'.series_replaceRows entries)

private theorem series_save (e : SeriesEditor) (reload overrideEvents : Bool) (desk : Desk σ ν) :
    (e.save reload overrideEvents desk).editor.series = e.series :=
  (e.agree_save reload overrideEvents desk).series

private theorem series_changeEntries (e : SeriesEditor) (entries : List Entry) (loading : Bool)
    (desk : Desk σ ν) : (e.changeEntries entries loading desk).editor.series = e.series := by
  cases loading with
  | true => exact e.series_replaceRows entries
  | false => exact (series_save _ _ _ _).trans (e.series_replaceRows entries)

/-- No operation takes the permissions section to another series. -/
theorem series_perform (e : SeriesEditor) (op : SeriesOp) (desk : Desk σ ν) :
    (e.perform op desk).editor.series = e.series := by
  cases op with
  | load => exact e.series_load desk
  | changeEntries entries loading => exact e.series_changeEntries entries loading desk
  | switchTemplate id overrideEvents =>
    show (e.switchTemplate id overrideEvents desk).editor.series = e.series
    cases ht : Template.byId? id with
    | none => rw [e.switchTemplate_eq_error ht]
    | some t =>
      rw [e.switchTemplate_eq ht]
      exact (series_save _ _ _ _).trans (e.series_switched t)
  | applyManaged id =>
    show (e.applyManaged id desk).editor.series = e.series
    unfold applyManaged
    split
    · rfl
    · exact series_changeEntries _ _ _ _
  | setFlags flags => rfl
  | addRow => rfl
  | editRows edit => rfl
  | deleteRow target => exact series_save _ _ _ _
  | addTag tag => exact series_save _ _ _ _
  | removeTag tag => exact series_save _ _ _ _
  | rowChanged role =>
    show (e.rowChanged role desk).editor.series = e.series
    unfold rowChanged
    split
    · exact series_save _ _ _ _
    · rfl
  | reloadTags => rfl
  | save reload overrideEvents => exact series_save _ _ _ _
  | moreRoles search => rfl

end SeriesEditor

/-- The permissions section is about the series on the screen. -/
def Screen.InStep (s : Screen) : Prop :=
  s.access.series = s.series

namespace Screen

/-- Finding a catalog may leave its place remembered, and nothing else. -/
theorem exists_catalog_eq (s : Screen) (flavor : String) :
    ∃ forms, (s.catalog flavor).2 = { s with forms := forms } := by
  unfold catalog
  dsimp only
  split
  · exact ⟨_, rfl⟩
  · split <;> exact ⟨_, rfl⟩

/-- A value is set in the catalog that is found, or the screen stays as it was found. -/
theorem setValue_cases (s : Screen) (flavor field : String) (value : Json) :
    (∃ error, s.setValue flavor field value = (.error error, (s.catalog flavor).2)) ∨
      ∃ place c c', (s.catalog flavor).1 = .ok (place, c) ∧ c.setValue? field value = some c' ∧
        s.setValue flavor field value = (.ok (), (s.catalog flavor).2.setCatalog place c') := by
  unfold setValue
  rcases s.catalog flavor with ⟨error | ⟨place, c⟩, s'⟩
  · exact .inl ⟨error, rfl⟩
  · dsimp only
    cases hset : c.setValue? field value with
    | none => exact .inl ⟨_, rfl⟩
    | some c' => exact .inr ⟨place, c, c', rfl, hset, rfl⟩

variable {σ ν : Type} [AdminNode σ] [NoteSink ν]

omit [NoteSink ν] in
/-- A field of the catalog that is found is submitted, and marked when the node takes it. -/
theorem saveMetadata_cases (s : Screen) (flavor field : String) (desk : Desk σ ν) :
    (∃ error, (s.catalog flavor).1 = .error error ∧
        s.saveMetadata flavor field desk = ⟨.error error, (s.catalog flavor).2, desk⟩) ∨
      ∃ place c, (s.catalog flavor).1 = .ok (place, c) ∧
        s.saveMetadata flavor field desk =
          let sent := AdminNode.saveSeriesMetadata s.series (c.prepareForSave field) desk.node
          match sent.1 with
          | .error error => ⟨.error error, (s.catalog flavor).2, { desk with node := sent.2 }⟩
          | .ok () =>
            ⟨.ok (), (s.catalog flavor).2.setCatalog place (c.markSaved field),
              { desk with node := sent.2 }⟩ := by
  obtain ⟨forms, hfound⟩ := s.exists_catalog_eq flavor
  have hseries : (s.catalog flavor).2.series = s.series := by rw [hfound]
  unfold saveMetadata Desk.call
  rcases hcatalog : s.catalog flavor with ⟨error | ⟨place, c⟩, s'⟩
  · exact .inl ⟨error, rfl, rfl⟩
  · refine .inr ⟨place, c, rfl, ?_⟩
    rw [hcatalog] at hseries
    dsimp only at hseries ⊢
    rw [hseries]
    rcases AdminNode.saveSeriesMetadata s.series (c.prepareForSave field) desk.node with
      ⟨_ | _, _⟩ <;> rfl

private theorem inStep_catalog {s : Screen} (h : s.InStep) (flavor : String) :
    (s.catalog flavor).2.InStep := by
  obtain ⟨forms, hfound⟩ := s.exists_catalog_eq flavor
  rw [hfound]
  exact h

private theorem inStep_setCatalog {s : Screen} (h : s.InStep) (place : CatalogPlace) (c : Catalog) :
    (s.setCatalog place c).InStep := by
  cases place <;> exact h

/-- Opening loads the permissions on some desk, forgets the places of catalogs, and shows what it is
answered in the other sections. -/
theorem exists_load_eq (s : Screen) (desk : Desk σ ν) :
    ∃ metadata main themes feeds links, ∃ before : Desk σ ν, (s.load desk).editor =
      ⟨s.series, (s.access.load before).editor, metadata, main, MetadataForms.empty, themes, feeds,
        links⟩ := by
  unfold load
  dsimp only
  cases (desk.call (loadMetadata s.series)).1 <;> exact ⟨_, _, _, _, _, _, rfl⟩

private theorem inStep_load {s : Screen} (h : s.InStep) (desk : Desk σ ν) :
    (s.load desk).editor.InStep := by
  obtain ⟨_, _, _, _, _, before, hload⟩ := s.exists_load_eq desk
  rw [hload]
  exact (s.access.series_load before).trans h

/-- Every operation keeps the permissions section at the series on the screen. -/
theorem inStep_perform {s : Screen} (h : s.InStep) (op : ScreenOp) (desk : Desk σ ν) :
    (s.perform op desk).editor.InStep := by
  cases op with
  | «open» => exact inStep_load h desk
  | change series rolePage =>
    have hnew : (make series rolePage).InStep := rfl
    exact inStep_load hnew desk
  | setValue flavor field value =>
    have hfound := inStep_catalog h flavor
    show (s.setValue flavor field value).2.InStep
    rcases s.setValue_cases flavor field value with ⟨_, heq⟩ | ⟨_, _, _, -, -, heq⟩
    · rw [heq]
      exact hfound
    · rw [heq]
      exact inStep_setCatalog hfound _ _
  | saveMetadata flavor field =>
    have hfound := inStep_catalog h flavor
    show (s.saveMetadata flavor field desk).editor.InStep
    rcases s.saveMetadata_cases flavor field desk with ⟨_, -, heq⟩ | ⟨_, _, -, heq⟩
    · rw [heq]
      exact hfound
    · rw [heq]
      dsimp only
      split
      · exact hfound
      · exact inStep_setCatalog hfound _ _
  | editThemes edit => exact h
  | saveTheme theme =>
    show (s.saveTheme theme desk).editor.InStep
    unfold saveTheme
    split <;> exact h
  | access op => exact (SeriesEditor.series_perform _ _ _).trans h

end Screen

/-- In every run the permissions section is about the series on the screen. -/
theorem Console.inStep_run {σ ν : Type} [AdminNode σ] [NoteSink ν] (series : String)
    (rolePage : Nat) (desk : Desk σ ν) (events : List (ConsoleEvent σ)) :
    (run series rolePage desk events).screen.InStep := by
  induction events using List.reverseRecOn with
  | nil => rfl
  | append_singleton events event ih =>
    rw [run_concat]
    cases event with
    | act op => exact Screen.inStep_perform ih op _
    | node change => exact ih

/-! ### Opening on a store -/

/-- A call that leaves every state as it is. -/
def Call.Keeps {σ α : Type} (c : Call σ α) : Prop :=
  ∀ s, (c s).2 = s

namespace Call.Keeps

variable {σ α β : Type} {c : Call σ α}

private theorem pure (a : α) : Keeps (σ := σ) (Pure.pure a) :=
  fun _ ↦ rfl

private theorem bind (hc : c.Keeps) {f : α → Call σ β} (hf : ∀ a, (f a).Keeps) :
    Keeps (c >>= f) := by
  intro s
  have hs := hc s
  show (Call.bind c f s).2 = s
  unfold Call.bind
  rcases hcs : c s with ⟨error | a, s'⟩
  · rw [hcs] at hs
    exact hs
  · rw [hcs] at hs
    obtain rfl : s' = s := hs
    exact hf a s'

private theorem attempt (hc : c.Keeps) : c.attempt.Keeps :=
  hc

end Call.Keeps

namespace Store

/-- A call that answers from the store leaves the store. -/
theorem keeps_answer {α : Type} (op : Operation) (answer : Store → α) :
    Call.Keeps (guarded op fun s ↦ (.ok (answer s), s)) := by
  intro s
  rw [guarded_answer]

/-- A call for metadata leaves the store. -/
theorem keeps_seriesMetadata (series : String) : (seriesMetadata series).Keeps := by
  intro s
  rw [seriesMetadata_eq]

private theorem keeps_resourceList (name : String) :
    Call.Keeps (AdminNode.resourceList (σ := Store) name) :=
  keeps_answer .resourceList fun s ↦ (s.resources.get? name).getD Dict.empty

private theorem keeps_loadMetadata (series : String) :
    Call.Keeps (Screen.loadMetadata (σ := Store) series) := by
  refine (keeps_seriesMetadata series).bind fun m ↦ ?_
  dsimp only
  split
  · exact .pure _
  · exact (keeps_answer .feeds feeds).attempt.bind fun _ ↦ .pure _

private theorem keeps_loadThemes (series : String) :
    Call.Keeps (ThemeChoice.load (σ := Store) series) :=
  (keeps_resourceList _).bind fun _ ↦
    (keeps_answer .seriesTheme fun s ↦ (s.themes.get? series).getD Dict.empty).bind fun _ ↦
      (keeps_resourceList _).bind fun _ ↦ .pure _

end Store

/-- On a store every section is loaded from the same contents. -/
theorem Screen.load_eq {ν : Type} [NoteSink ν] (s : Screen) (desk : Desk Store ν) :
    s.load desk =
      ⟨(s.access.load desk).answer,
        { s.showMetadata (loadMetadata s.series desk.node).1 with
          access := (s.access.load desk).editor
          forms := MetadataForms.empty
          themes := (ThemeChoice.load s.series desk.node).1.toOption },
        (s.access.load desk).desk⟩ := by
  have hmetadata : desk.call (loadMetadata s.series) =
      ((loadMetadata s.series desk.node).1, desk) := by
    rw [Desk.call_eq, Store.keeps_loadMetadata s.series desk.node]
  have hthemes : desk.call (ThemeChoice.load s.series) =
      ((ThemeChoice.load s.series desk.node).1, desk) := by
    rw [Desk.call_eq, Store.keeps_loadThemes s.series desk.node]
  unfold load
  rw [hmetadata]
  dsimp only
  rw [hthemes]
  cases (loadMetadata s.series desk.node).1 <;> rfl

end SeriesAcl
