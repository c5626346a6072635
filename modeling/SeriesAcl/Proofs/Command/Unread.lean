import SeriesAcl.Http.Client
import SeriesAcl.Proofs.Command.Apply
import SeriesAcl.Proofs.Editing.Watch

/-!
# Applying a template to a list that was not read

The command that applies a template replaces the whole list of a series. Whatever the node, it sends
nothing over a list that could not be read, with one exception: an answer without an access block is
passed over, and a template of the catalog is then saved as if the list had been empty
(`readsFirst_iff`).
-/

namespace SeriesAcl

namespace AdminNode

variable {σ : Type} [AdminNode σ]

/-- To watch a node does not change what it answers. -/
theorem listRead_fresh_iff {series : String} {node : σ} :
    ListRead series (Watched.fresh node) ↔ ListRead series node :=
  Iff.rfl

private theorem blockMissing_fresh_iff {series : String} {node : σ} :
    BlockMissing series (Watched.fresh node) ↔ BlockMissing series node :=
  Iff.rfl

end AdminNode

namespace Policy

/-- The row of a template may be saved, also one that keeps its placeholder. -/
theorem isValid_group_expand {t : Template} (ht : t ∈ Template.catalog) (org : Option String)
    (flags : Flags) (field : String) :
    (check (group (t.expand org flags) field) .relaxed).isValid = true := by
  obtain ⟨role, hrole⟩ := Template.exists_roleFor_of_mem ht org
  obtain ⟨p, hp, hr, -, ha⟩ := Template.group_expand ht hrole flags field
  rw [hp, isValid_check_iff]
  refine ⟨List.cons_ne_nil p [], ?_⟩
  intro q hq
  rw [List.mem_singleton.mp hq]
  exact (isRetainable_iff_allows hr).mpr ⟨_, (ha _).mpr (Template.castView_mem_terms ht flags)⟩

end Policy

namespace Command

variable {σ : Type} [AdminNode σ]

/-! ### The command on a watched node -/

private theorem applyTo_unwatched (t : Template) (flags : Flags) (overrideEvents : Bool)
    (e : SeriesEditor) (desk : Desk (Watched σ) Board) :
    applyTo t flags overrideEvents e desk.unwatched =
      ((applyTo t flags overrideEvents e desk).1,
        (applyTo t flags overrideEvents e desk).2.node) := by
  unfold applyTo
  rw [SeriesEditor.switchTemplate_unwatched]
  unfold Turn.unwatched
  dsimp only
  split
  · rfl
  · split <;> rfl

/-- A watched node is run on as the node itself. -/
theorem run_apply_unwatched (options : RunOptions) (series key : String) (flags : Flags)
    (overrideEvents : Bool) (node : σ) :
    let done := run options (.apply series key flags overrideEvents) (Watched.fresh node)
    run options (.apply series key flags overrideEvents) node = (done.1, done.2.node) := by
  have hopen : openSeries options series node =
      (openSeries options series (Watched.fresh node)).unwatched :=
    SeriesEditor.load_unwatched _ ⟨Watched.fresh node, Board.empty⟩
  simp only [run]
  rw [hopen]
  unfold Turn.unwatched
  dsimp only
  cases Template.byKey? key with
  | none => rfl
  | some t =>
    dsimp only
    cases (openSeries options series (Watched.fresh node)).answer with
    | error error => rfl
    | ok _ => exact applyTo_unwatched _ _ _ _ _

/-! ### What is sent -/

/-- An open list ends as the save of its switched rows does; unless these were saved, the command
fails. -/
theorem applyTo_of_unlocked {t : Template} (ht : Template.byId? t.id = some t) (flags : Flags)
    (overrideEvents : Bool) {e : SeriesEditor} (hl : e.locked = false) (desk : Desk σ Board) :
    let saved := ((e.setFlags flags).switched t).save false overrideEvents desk
    (applyTo t flags overrideEvents e desk).2 = saved.desk.node ∧
      (saved.answer = .ok .saved ∨
        ∃ error, (applyTo t flags overrideEvents e desk).1 = .error error) := by
  unfold applyTo
  rw [hl, SeriesEditor.switchTemplate_eq _ ht]
  simp only [Bool.false_eq_true, if_false]
  cases (((e.setFlags flags).switched t).save false overrideEvents desk).answer with
  | error error => exact ⟨rfl, .inr ⟨error, rfl⟩⟩
  | ok outcome =>
    cases outcome with
    | saved => exact ⟨rfl, .inl rfl⟩
    | rejected check => exact ⟨rfl, .inr ⟨_, rfl⟩⟩

/-- The switched rows of an open list are sent when they pass the check. -/
theorem saves_applyTo_of_isValid {t : Template} (ht : Template.byId? t.id = some t) (flags : Flags)
    (overrideEvents : Bool) {e : SeriesEditor} (hl : e.locked = false)
    (hv : (Policy.check ((e.setFlags flags).switched t).rows .relaxed).isValid = true)
    (desk : Desk (Watched σ) Board) :
    (applyTo t flags overrideEvents e desk).2.saves = desk.node.saves ++
      [(e.series, ⟨Policy.toEntries ((e.setFlags flags).switched t).rows,
        ((e.setFlags flags).switched t).updateMode.overrides overrideEvents⟩)] := by
  rw [(applyTo_of_unlocked ht flags overrideEvents hl desk).1, SeriesEditor.saves_save, if_pos hv,
    SeriesEditor.series_switched]
  rfl

/-- Switched rows that do not pass the check are not sent, and the command fails. -/
theorem saves_applyTo_of_not_isValid {t : Template} (ht : Template.byId? t.id = some t)
    (flags : Flags) (overrideEvents : Bool) {e : SeriesEditor} (hl : e.locked = false)
    (hv : (Policy.check ((e.setFlags flags).switched t).rows .relaxed).isValid = false)
    (desk : Desk (Watched σ) Board) :
    (∃ error, (applyTo t flags overrideEvents e desk).1 = .error error) ∧
      (applyTo t flags overrideEvents e desk).2.saves = desk.node.saves := by
  obtain ⟨hnode, hanswer⟩ := applyTo_of_unlocked ht flags overrideEvents hl desk
  have hno : ¬(Policy.check ((e.setFlags flags).switched t).rows .relaxed).isValid = true := by
    simp [hv]
  constructor
  · refine hanswer.resolve_left ?_
    have hsave := ((e.setFlags flags).switched t).save_eq false overrideEvents desk
    rw [if_neg hno] at hsave
    rw [(Prod.mk.inj hsave).1]
    nofun
  · rw [hnode, SeriesEditor.saves_save, if_neg hno]

/-- A series that is opened was read, unless its answer has no block. -/
theorem openSeries_error_of_unread (options : RunOptions) {series : String} {node : σ}
    (hread : ¬AdminNode.ListRead series node) (hblock : ¬AdminNode.BlockMissing series node) :
    ∃ error, (openSeries options series node).answer = .error error := by
  have hload := (SeriesEditor.make series options.rolePageSize).load_eq ⟨node, Board.empty⟩
  rw [Desk.call_eq] at hload
  change openSeries options series node = _ at hload
  cases hanswer : (AdminNode.readAccess series node).1 with
  | error error => exact ⟨error, by rw [hload]; simp only [SeriesEditor.make, hanswer]⟩
  | ok envelope =>
    obtain ⟨_ | block⟩ := envelope
    · exact absurd hanswer hblock
    · cases hentries : block.entries with
      | error error =>
        exact ⟨error, by rw [hload]; simp only [SeriesEditor.make, hanswer, hentries]⟩
      | ok entries => exact absurd ⟨block, entries, hanswer, hentries⟩ hread

/-- The editor that passes over an answer without a block: it shows no rows, and no lock. -/
theorem openSeries_of_blockMissing (options : RunOptions) {series : String} {node : σ}
    (h : AdminNode.BlockMissing series node) :
    let opened := openSeries options series node
    let known := (SeriesEditor.make series options.rolePageSize).knowing
      (AdminNode.currentUser node).1
    opened.answer = .ok () ∧ opened.editor.locked = false ∧ opened.editor.series = series ∧
      ∀ t flags, ((opened.editor.setFlags flags).switched t).rows =
          Policy.group (t.expand known.org flags) Policy.seriesField ∧
        ((opened.editor.setFlags flags).switched t).updateMode = known.updateMode := by
  have hopen : openSeries options series node =
      ((SeriesEditor.make series options.rolePageSize).introduced node).loadPickers
        ⟨(AdminNode.readAccess series node).2, Board.empty⟩ := by
    rw [openSeries, SeriesEditor.load_eq, Desk.call_eq]
    have hanswer : (AdminNode.readAccess (SeriesEditor.make series options.rolePageSize).series
        node).1 = .ok ⟨none⟩ := h
    rw [hanswer]
    rfl
  obtain ⟨actions, roles, node', hpick⟩ := SeriesEditor.exists_loadPickers_eq
    ((SeriesEditor.make series options.rolePageSize).introduced node)
    ⟨(AdminNode.readAccess series node).2, Board.empty⟩
  rw [hopen, hpick]
  obtain ⟨org, mode, users, hintroduced⟩ :=
    (SeriesEditor.make series options.rolePageSize).exists_introduced_eq node
  refine ⟨rfl, by rw [hintroduced]; rfl, by rw [hintroduced]; rfl, ?_⟩
  intro t flags
  constructor
  · have hrows : ((SeriesEditor.make series options.rolePageSize).introduced node).rows = [] := by
      rw [hintroduced]
      rfl
    rw [SeriesEditor.switched, SeriesEditor.rows_replaceRows]
    simp only [SeriesEditor.setFlags, hrows]
    rfl
  · rw [SeriesEditor.switched, SeriesEditor.updateMode_replaceRows]
    rfl

/-! ### Reading first -/

/-- The command that applies a template sends a save only over a list that it has read; when the
answer has no access block, it fails and sends nothing. -/
def ReadsFirst (options : RunOptions) (series key : String) (flags : Flags) (overrideEvents : Bool)
    (node : σ) : Prop :=
  let done := run options (.apply series key flags overrideEvents) (Watched.fresh node)
  (done.2.saves ≠ [] → AdminNode.ListRead series node) ∧
    (AdminNode.BlockMissing series node →
      (∃ error, done.1 = .error error) ∧ done.2.saves = [])

/-- A command that sends nothing unless the list was read, and fails otherwise, reads first. -/
theorem ReadsFirst.of_saves_eq_nil {options : RunOptions} {series key : String} {flags : Flags}
    {overrideEvents : Bool} {node : σ}
    (h : let done := run options (.apply series key flags overrideEvents) (Watched.fresh node)
      (∃ error, done.1 = .error error) ∧ done.2.saves = []) :
    ReadsFirst options series key flags overrideEvents node :=
  ⟨fun hsaves ↦ absurd h.2 hsaves, fun _ ↦ h⟩

/-- A series that cannot be opened is not switched, and nothing is sent. -/
theorem readsFirst_of_open_error {options : RunOptions} {series key : String} {t : Template}
    {node : σ} {error : Error} (hkey : Template.byKey? key = some t)
    (h : (openSeries options series (Watched.fresh node)).answer = .error error) (flags : Flags)
    (overrideEvents : Bool) : ReadsFirst options series key flags overrideEvents node := by
  apply ReadsFirst.of_saves_eq_nil
  rw [run_apply_of_error hkey h]
  exact ⟨⟨error, rfl⟩, SeriesEditor.saves_load _ ⟨Watched.fresh node, Board.empty⟩⟩

/-- Over an answer without a block a template of the catalog is saved as if the list had been
empty. -/
theorem saves_of_blockMissing (options : RunOptions) (series : String) {key : String} {t : Template}
    (ht : t ∈ Template.catalog) (hkey : Template.byKey? key = some t) (flags : Flags)
    (overrideEvents : Bool) {node : σ} (h : AdminNode.BlockMissing series node) :
    let known := (SeriesEditor.make series options.rolePageSize).knowing
      (AdminNode.currentUser node).1
    (run options (.apply series key flags overrideEvents) (Watched.fresh node)).2.saves =
      [(series, ⟨Policy.toEntries (Policy.group (t.expand known.org flags) Policy.seriesField),
        known.updateMode.overrides overrideEvents⟩)] := by
  obtain ⟨hanswer, hlocked, hseries, hswitched⟩ :=
    openSeries_of_blockMissing options (AdminNode.blockMissing_fresh_iff.mpr h)
  obtain ⟨hrows, hmode⟩ := hswitched t flags
  have hsaves : (openSeries options series (Watched.fresh node)).desk.node.saves = [] :=
    SeriesEditor.saves_load _ ⟨Watched.fresh node, Board.empty⟩
  rw [run_apply_of_ok hkey hanswer, saves_applyTo_of_isValid (Template.byId?_of_byKey? hkey) flags
    overrideEvents hlocked, hsaves, hseries, hrows, hmode]
  · rfl
  · rw [hrows]
    exact Policy.isValid_group_expand ht _ flags Policy.seriesField

/-- The sentinel has nothing to save over an answer without a block. -/
theorem readsFirst_custom (options : RunOptions) {series key : String}
    (hkey : Template.byKey? key = some Template.custom) (flags : Flags) (overrideEvents : Bool)
    {node : σ} (h : AdminNode.BlockMissing series node) :
    ReadsFirst options series key flags overrideEvents node := by
  obtain ⟨hanswer, hlocked, -, hswitched⟩ :=
    openSeries_of_blockMissing options (AdminNode.blockMissing_fresh_iff.mpr h)
  have hsaves : (openSeries options series (Watched.fresh node)).desk.node.saves = [] :=
    SeriesEditor.saves_load _ ⟨Watched.fresh node, Board.empty⟩
  apply ReadsFirst.of_saves_eq_nil
  rw [run_apply_of_ok hkey hanswer, ← hsaves]
  apply saves_applyTo_of_not_isValid (Template.byId?_of_byKey? hkey) flags overrideEvents hlocked
  rw [(hswitched Template.custom flags).1]
  rfl

/-- The command reads first, whatever the node, unless the answer has no access block and the
template is one of the catalog. Then it sends the entries of the template, and nothing of the list
that it did not see. To watch the node changes nothing. -/
theorem readsFirst_iff (options : RunOptions) (series key : String) (flags : Flags)
    (overrideEvents : Bool) (node : σ) :
    let done := run options (.apply series key flags overrideEvents) (Watched.fresh node)
    run options (.apply series key flags overrideEvents) node = (done.1, done.2.node) ∧
      (ReadsFirst options series key flags overrideEvents node ↔
        ¬(AdminNode.BlockMissing series node ∧
          ∃ t ∈ Template.catalog, Template.byKey? key = some t)) ∧
      ∀ t ∈ Template.catalog, Template.byKey? key = some t → AdminNode.BlockMissing series node →
        let known := (SeriesEditor.make series options.rolePageSize).knowing
          (AdminNode.currentUser node).1
        done.2.saves =
          [(series, ⟨Policy.toEntries (Policy.group (t.expand known.org flags) Policy.seriesField),
            known.updateMode.overrides overrideEvents⟩)] := by
  refine ⟨run_apply_unwatched options series key flags overrideEvents node, ⟨?_, ?_⟩,
    fun t ht hkey hmissing ↦
      saves_of_blockMissing options series ht hkey flags overrideEvents hmissing⟩
  · rintro ⟨-, hfails⟩ ⟨hmissing, t, ht, hkey⟩
    have hsaves := saves_of_blockMissing options series ht hkey flags overrideEvents hmissing
    rw [(hfails hmissing).2] at hsaves
    cases hsaves
  · intro hno
    cases hkey : Template.byKey? key with
    | none =>
      apply ReadsFirst.of_saves_eq_nil
      simp only [run, hkey]
      exact ⟨⟨_, rfl⟩, rfl⟩
    | some t =>
      by_cases hread : AdminNode.ListRead series node
      · refine ⟨fun _ ↦ hread, fun hmissing ↦ ?_⟩
        obtain ⟨block, entries, hanswer, -⟩ := hread
        cases hmissing.symm.trans hanswer
      · by_cases hmissing : AdminNode.BlockMissing series node
        · rcases List.mem_cons.mp (Template.mem_of_byKey? hkey) with rfl | ht
          · exact readsFirst_custom options hkey flags overrideEvents hmissing
          · exact absurd ⟨hmissing, t, ht, hkey⟩ hno
        · obtain ⟨error, herror⟩ := openSeries_error_of_unread options
            (mt AdminNode.listRead_fresh_iff.mp hread)
            (mt AdminNode.blockMissing_fresh_iff.mp hmissing)
          exact readsFirst_of_open_error hkey herror flags overrideEvents

/-- A node over HTTP that answers every request with an empty object. -/
def barrenNode : Client where
  base := ⟨"http", some ⟨"", none, .name "node.example", none⟩, .segments [""], none, none⟩
  user := none
  password := none
  transport := fun _ _ ↦ some ⟨200, [], some "\x7b\x7d"⟩
  cookies := Dict.empty
  log := []

/-- Over an empty object the template for private series is saved, although no list was read. -/
theorem not_readsFirst_barrenNode :
    ¬∀ (σ : Type) [AdminNode σ] (options : RunOptions) (series key : String) (flags : Flags)
      (overrideEvents : Bool) (node : σ),
      ReadsFirst options series key flags overrideEvents node := by
  intro h
  have hmissing : AdminNode.BlockMissing "s" barrenNode := by
    unfold AdminNode.BlockMissing
    rfl
  have hkey : Template.byKey? "private" = some Template.privateSeries := rfl
  have hsaves := saves_of_blockMissing ⟨100, false⟩ "s" Template.privateSeries_mem_catalog hkey
    Flags.none false hmissing
  have hfails := (h Client ⟨100, false⟩ "s" "private" Flags.none false barrenNode).2 hmissing
  rw [hfails.2] at hsaves
  cases hsaves

end Command

end SeriesAcl
