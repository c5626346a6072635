import SeriesAcl.Notice.Board
import SeriesAcl.Proofs.Editing.ScreenOperations

/-!
# Sections that fail to load

What a screen shows in its sections when what they ask of the store fails, in any combination.
Metadata, feeds, themes and the user directory are emptied. The rows of the access list and the
labels of the actions stay as they were, so all sections that failed are empty exactly when those of
the two that failed were empty before (`clearsFailed_run_iff`).
-/

namespace SeriesAcl

/-- The sections of a screen that are loaded on their own. -/
inductive ScreenSection where
  | metadata
  | feeds
  | themes
  | users
  | list
  | actions

namespace ScreenSection

/-- What a section asks of the store fails. The labels of the actions are asked for once the list is
read. -/
def Fails (series : String) (s : Store) : ScreenSection → Prop
  | .metadata => ∃ error, (AdminNode.seriesMetadata series s).1 = .error error
  | .feeds => ∃ error, (AdminNode.feeds s).1 = .error error
  | .themes => ∃ error, (ThemeChoice.load series s).1 = .error error
  | .users => ∃ error, (AdminNode.directoryUsers s).1 = .error error
  | .list => ∃ error, (AdminNode.seriesAccess series s).1 = .error error
  | .actions => (∃ block entries, s.Readable series block entries) ∧
    ∃ error, (AdminNode.resourceList Resource.aclActions s).1 = .error error

/-- A section of a screen shows nothing. -/
def Empty (s : Screen) : ScreenSection → Prop
  | .metadata => s.metadata = Metadata.empty ∧ s.main = none ∧ s.feeds = none ∧ s.links = []
  | .feeds => s.feeds = none ∧ s.links = []
  | .themes => s.themes = none
  | .users => s.access.users = []
  | .list => s.access.rows = [] ∧ s.access.tags = []
  | .actions => s.access.actions = Dict.empty

/-- A section of a screen shows what it showed before. -/
def Same (s s' : Screen) : ScreenSection → Prop
  | .metadata => s'.metadata = s.metadata ∧ s'.main = s.main ∧ s'.feeds = s.feeds ∧
    s'.links = s.links
  | .feeds => s'.feeds = s.feeds ∧ s'.links = s.links
  | .themes => s'.themes = s.themes
  | .users => s'.access.users = s.access.users
  | .list => s'.access.rows = s.access.rows ∧ s'.access.tags = s.access.tags
  | .actions => s'.access.actions = s.access.actions

/-- The sections that a failure empties. -/
def isCleared : ScreenSection → Bool
  | .metadata | .feeds | .themes | .users => true
  | .list | .actions => false

private theorem Same.empty_iff {part : ScreenSection} {s s' : Screen} (h : part.Same s s') :
    part.Empty s' ↔ part.Empty s := by
  cases part with
  | metadata =>
    obtain ⟨hmetadata, hmain, hfeeds, hlinks⟩ := h
    rw [Empty, Empty, hmetadata, hmain, hfeeds, hlinks]
  | feeds | list =>
    obtain ⟨hfirst, hsecond⟩ := h
    rw [Empty, Empty, hfirst, hsecond]
  | themes | users | actions => exact Eq.congr_left h

end ScreenSection

/-! ### Metadata and feeds -/

/-- The metadata that a store has is split, and the feeds come with it when they can be had. -/
theorem Screen.loadMetadata_fst (series : String) (s : Store) :
    (loadMetadata series s).1 = (AdminNode.seriesMetadata series s).1.map fun m ↦
      ⟨m.splitMain.1, m.splitMain.2,
        match m.splitMain.2 >>= (·.seriesUid) with
        | none => none
        | some _ => (AdminNode.feeds s).1.toOption⟩ := by
  have hkeeps : (AdminNode.seriesMetadata series s).2 = s := Store.keeps_seriesMetadata series s
  show (Call.bind (AdminNode.seriesMetadata series) _ s).1 = _
  unfold Call.bind
  rcases hread : AdminNode.seriesMetadata series s with ⟨error | m, s'⟩
  · rfl
  · rw [hread] at hkeeps
    obtain rfl : s' = s := hkeeps
    dsimp only [Except.map]
    cases m.splitMain.2 >>= (·.seriesUid) <;> rfl

/-- Without feeds there are no links. -/
theorem Screen.linksOf_of_feeds {loaded : LoadedMetadata} (h : loaded.feeds = none) :
    linksOf loaded = [] := by
  unfold linksOf
  rw [h]
  cases loaded.main >>= (·.seriesUid) <;> rfl

/-! ### Permissions -/

namespace SeriesEditor

variable {σ ν : Type} [AdminNode σ] [NoteSink ν]

private theorem lists_replaceRows (e : SeriesEditor) (entries : List Entry) :
    (e.replaceRows entries).users = e.users ∧ (e.replaceRows entries).actions = e.actions := by
  unfold replaceRows
  dsimp only
  split <;> exact ⟨rfl, rfl⟩

/-- The directory that is shown is the one that the store answers with, if it answers. -/
theorem users_load (e : SeriesEditor) (desk : Desk Store ν) :
    (e.load desk).editor.users = (AdminNode.directoryUsers desk.node).1.toOption.getD [] := by
  have huser : (AdminNode.currentUser desk.node).2 = desk.node :=
    Store.keeps_answer .currentUser Store.user desk.node
  have hload := load_congr SeriesEditor.users (fun _ _ _ ↦ rfl)
    (fun e block entries (_ : Desk Store ν) ↦ (e.lists_replaceRows entries).1) e desk
  rw [hload, introduced, huser]

/-- A store is asked for the access of a series as if nothing was asked before. -/
theorem readAccess_eq (series : String) (s : Store) :
    AdminNode.readAccess series s = AdminNode.seriesAccess series s := by
  have huser : (AdminNode.currentUser s).2 = s := Store.keeps_answer .currentUser Store.user s
  have husers : (AdminNode.directoryUsers s).2 = s :=
    Store.keeps_answer .directoryUsers Store.users s
  unfold AdminNode.readAccess
  dsimp only
  rw [huser, husers]

/-- A list that is not answered leaves the rows and their tags as they were. -/
theorem rows_load (e : SeriesEditor) {desk : Desk Store ν}
    (h : ∃ error, (AdminNode.seriesAccess e.series desk.node).1 = .error error) :
    (e.load desk).editor.rows = e.rows ∧ (e.load desk).editor.tags = e.tags := by
  obtain ⟨error, herror⟩ := h
  obtain ⟨org, mode, users, hknown⟩ := e.exists_introduced_eq desk.node
  rw [load_eq, Desk.call_eq, readAccess_eq, herror]
  dsimp only
  rw [hknown]
  exact ⟨rfl, rfl⟩

/-- Labels that are not answered stay as they were. -/
theorem actions_load (e : SeriesEditor) {desk : Desk Store ν}
    (h : ∃ error, (AdminNode.resourceList Resource.aclActions desk.node).1 = .error error) :
    (e.load desk).editor.actions = e.actions := by
  obtain ⟨error, herror⟩ := h
  have hknown : (e.introduced desk.node).actions = e.actions := by
    obtain ⟨_, _, _, hintroduced⟩ := e.exists_introduced_eq desk.node
    rw [hintroduced]
  have hpick : ∀ (e' : SeriesEditor) (notes : ν),
      (e'.loadPickers ⟨desk.node, notes⟩).editor.actions = e'.actions := by
    intro e' notes
    unfold loadPickers loadActions
    rw [Desk.call_eq, herror]
    rfl
  have hnode : (AdminNode.seriesAccess e.series desk.node).2 = desk.node := by
    show (Store.seriesAccess e.series desk.node).2 = desk.node
    rw [Store.seriesAccess_eq]
  rw [load_eq, Desk.call_eq, readAccess_eq, hnode]
  rcases (AdminNode.seriesAccess e.series desk.node).1 with error | ⟨_ | block⟩
  · exact hknown
  · exact (hpick _ _).trans hknown
  · cases hentries : block.entries with
    | error error =>
      dsimp only
      rw [hentries]
      exact hknown
    | ok entries =>
      dsimp only
      rw [hentries]
      exact (hpick _ _).trans (((e.introduced desk.node).lists_replaceRows entries).2.trans hknown)

end SeriesEditor

/-! ### Opening -/

namespace Screen

variable {ν : Type} [NoteSink ν]

/-- Opening a screen leaves the sections that fail to load empty. -/
def ClearsFailed (s : Screen) (desk : Desk Store ν) : Prop :=
  ∀ part : ScreenSection, part.Fails s.series desk.node → part.Empty (s.load desk).editor

/-- What becomes of a section that fails to load: it is emptied, or it stays. -/
theorem load_of_fails {s : Screen} (h : s.InStep) (desk : Desk Store ν) {part : ScreenSection}
    (hfails : part.Fails s.series desk.node) :
    if part.isCleared then part.Empty (s.load desk).editor
    else part.Same s (s.load desk).editor := by
  rw [load_eq]
  cases part with
  | metadata =>
    obtain ⟨error, herror⟩ := hfails
    rw [loadMetadata_fst, herror]
    exact ⟨rfl, rfl, rfl, rfl⟩
  | feeds =>
    obtain ⟨error, herror⟩ := hfails
    rw [loadMetadata_fst]
    cases (AdminNode.seriesMetadata s.series desk.node).1 with
    | error _ => exact ⟨rfl, rfl⟩
    | ok m =>
      have hnone : (match m.splitMain.2 >>= (·.seriesUid) with
          | none => none
          | some _ => (AdminNode.feeds desk.node).1.toOption) = none := by
        rw [herror]
        split <;> rfl
      exact ⟨hnone, linksOf_of_feeds hnone⟩
  | themes =>
    obtain ⟨error, herror⟩ := hfails
    show (ThemeChoice.load s.series desk.node).1.toOption = none
    rw [herror]
    rfl
  | users =>
    obtain ⟨error, herror⟩ := hfails
    show (s.access.load desk).editor.users = []
    rw [SeriesEditor.users_load, herror]
    rfl
  | list =>
    have haccess : ∃ error,
        (AdminNode.seriesAccess s.access.series desk.node).1 = .error error := by
      rw [h]
      exact hfails
    exact s.access.rows_load haccess
  | actions => exact s.access.actions_load hfails.2

/-- A screen that is changed to a series shows nothing in the sections that fail to load. -/
theorem change_of_fails (s : Screen) (series : String) (rolePage : Nat) (desk : Desk Store ν)
    {part : ScreenSection} (hfails : part.Fails series desk.node) :
    part.Empty (s.change series rolePage desk).editor := by
  have hnew : (make series rolePage).InStep := rfl
  have hopened := load_of_fails hnew desk hfails
  -- What stays on a new screen is empty.
  cases part <;> exact hopened

end Screen

namespace Console

variable {ν : Type} [NoteSink ν]

/-- Whatever was done before, opening a screen empties the sections for metadata, feeds, themes and
users when they fail to load, and leaves the rows of the list and the labels of the actions as they
were when those fail. So all that fails is cleared exactly when what stays was empty before, as it
is on a screen that is changed to a series. -/
theorem clearsFailed_run_iff (series : String) (rolePage : Nat) (desk : Desk Store ν)
    (events : List (ConsoleEvent Store)) :
    let x := run series rolePage desk events
    (∀ part : ScreenSection, part.Fails x.screen.series x.desk.node →
        if part.isCleared then part.Empty (x.screen.load x.desk).editor
        else part.Same x.screen (x.screen.load x.desk).editor) ∧
      (x.screen.ClearsFailed x.desk ↔ ∀ part : ScreenSection, part.isCleared = false →
        part.Fails x.screen.series x.desk.node → part.Empty x.screen) ∧
      ∀ next page (part : ScreenSection), part.Fails next x.desk.node →
        part.Empty (x.screen.change next page x.desk).editor := by
  intro x
  have hopen : ∀ part : ScreenSection, part.Fails x.screen.series x.desk.node →
      if part.isCleared then part.Empty (x.screen.load x.desk).editor
      else part.Same x.screen (x.screen.load x.desk).editor :=
    fun _ ↦ Screen.load_of_fails (inStep_run series rolePage desk events) x.desk
  refine ⟨hopen, ⟨?_, ?_⟩, fun next page part ↦ x.screen.change_of_fails next page x.desk⟩
  · intro hclears part hpart hfails
    have hsame := hopen part hfails
    rw [hpart] at hsame
    exact (ScreenSection.Same.empty_iff hsame).mp (hclears part hfails)
  · intro hbefore part hfails
    have hafter := hopen part hfails
    cases hpart : part.isCleared with
    | true =>
      rw [hpart] at hafter
      exact hafter
    | false =>
      rw [hpart] at hafter
      exact (ScreenSection.Same.empty_iff hafter).mpr (hbefore part hpart hfails)

/-- A series is opened, and then its list cannot be read. -/
def refusedAfterOpen : Console Store Board :=
  run "s" 100 ⟨Store.privateStore, Board.empty⟩
    [.act .open, .node fun s ↦ { s with failing := [.seriesAccess] }]

/-- The rows of the first opening stay on the screen. -/
theorem not_clearsFailed_refusedAfterOpen :
    ¬ refusedAfterOpen.screen.ClearsFailed refusedAfterOpen.desk := by
  intro h
  have hempty := h .list ⟨_, rfl⟩
  exact absurd hempty.1 (by decide)

end Console

end SeriesAcl
