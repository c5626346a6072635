import SeriesAcl.Proofs.Editing.Banners
import SeriesAcl.Proofs.Notice.Standing

/-!
# The notes of an editor

Which notes of the permissions tab stand in a sink with fresh ids that lets no note expire. Every
operation checks the rows in a save, shows a list with its lock, or leaves the notes alone
(`checks_perform`, `rests_perform`). So after any run the note about the lock stands exactly when
the list is locked, the one about rows exactly when the last check failed, and there is a message
for every save; and every removal takes down a note that stands (`notes_run`).
-/

namespace SeriesAcl

/-- Whether an operation gets as far as the check of a save. -/
def SeriesOp.checks {σ : Type} [AdminNode σ] (op : SeriesOp) (node : σ) : Bool :=
  match op with
  | .changeEntries _ loading => !loading
  | .switchTemplate id _ => (Template.byId? id).isSome
  | .applyManaged id => (AdminNode.managedAcl id node).1.toBool
  | .rowChanged role => (role.filter fun r ↦ r ≠ "").isSome
  | .deleteRow _ | .addTag _ | .removeTag _ | .save _ _ => true
  | .load | .setFlags _ | .addRow | .editRows _ | .reloadTags | .moreRoles _ => false

namespace SeriesEditor

/-- Whether an operation was answered with `saved`. -/
def answersSaved (answer : Except Error (Option SaveOutcome)) : Bool :=
  match answer with
  | .ok (some .saved) => true
  | _ => false

variable {σ ν : Type} [AdminNode σ] [NoteSink ν]

/-- A turn in which the rows were checked that the editor then has, and saved or not. -/
structure Checks (e : SeriesEditor) (notes : ν)
    (turn : Turn SeriesEditor σ ν (Option SaveOutcome)) : Prop where
  locked : turn.editor.locked = e.locked
  banners : turn.editor.banners turn.desk.notes =
    let b := (e.banners notes).checked (Policy.check turn.editor.rows .relaxed).rulesValid
    if answersSaved turn.answer then b.saved else b

/-- A turn that left the banners alone or showed a list with its lock. -/
structure Rests (e : SeriesEditor) (notes : ν)
    (turn : Turn SeriesEditor σ ν (Option SaveOutcome)) : Prop where
  answer : answersSaved turn.answer = false
  banners : turn.editor.locked = e.locked ∧
      (∃ valid, turn.editor.banners turn.desk.notes = { e.banners notes with valid := valid }) ∨
    turn.editor.banners turn.desk.notes = (e.banners notes).shown turn.editor.locked

/-! ### Checks -/

omit [AdminNode σ] in
private theorem Checks.of_eq {e e' : SeriesEditor} {notes : ν}
    {turn : Turn SeriesEditor σ ν (Option SaveOutcome)} (h : e'.Checks notes turn)
    (hlocked : e'.locked = e.locked) (hbanners : e'.banners notes = e.banners notes) :
    e.Checks notes turn where
  locked := h.locked.trans hlocked
  banners := hbanners ▸ h.banners

private theorem checks_save (e : SeriesEditor) (reload overrideEvents : Bool) (desk : Desk σ ν) :
    e.Checks desk.notes ((e.save reload overrideEvents desk).map some) := by
  unfold save
  dsimp only
  split
  · rw [Desk.call_eq]
    dsimp only
    cases (AdminNode.saveSeriesAccess e.series
      ⟨Policy.toEntries e.rows, e.updateMode.overrides overrideEvents⟩ desk.node).1 with
    | error error => exact ⟨rfl, rfl⟩
    | ok _ => cases reload <;> exact ⟨rfl, rfl⟩
  · exact ⟨rfl, rfl⟩

private theorem locked_replaceRows (e : SeriesEditor) (entries : List Entry) :
    (e.replaceRows entries).locked = e.locked := by
  unfold replaceRows
  dsimp only
  split <;> rfl

/-- An operation that gets as far as a save checks the rows. -/
theorem checks_perform (e : SeriesEditor) {op : SeriesOp} {desk : Desk σ ν}
    (h : op.checks desk.node = true) : e.Checks desk.notes (e.perform op desk) := by
  cases op with
  | changeEntries entries loading =>
    cases loading with
    | true => cases h
    | false =>
      exact (checks_save (e.replaceRows entries) false false desk).of_eq
        (e.locked_replaceRows entries) (e.banners_replaceRows entries desk.notes)
  | switchTemplate id overrideEvents =>
    obtain ⟨t, ht⟩ := Option.isSome_iff_exists.mp h
    show e.Checks desk.notes ((e.switchTemplate id overrideEvents desk).map some)
    rw [e.switchTemplate_eq ht]
    exact (checks_save (e.switched t) false overrideEvents desk).of_eq
      (locked_replaceRows _ _) (banners_replaceRows _ _ _)
  | applyManaged id =>
    show e.Checks desk.notes (e.applyManaged id desk)
    unfold applyManaged
    rw [Desk.call_eq]
    rw [SeriesOp.checks] at h
    cases hanswer : (AdminNode.managedAcl id desk.node).1 with
    | error error =>
      rw [hanswer] at h
      cases h
    | ok managed =>
      exact (checks_save (e.replaceRows managed.entries) false false
        { desk with node := (AdminNode.managedAcl id desk.node).2 }).of_eq
          (e.locked_replaceRows _) (e.banners_replaceRows _ desk.notes)
  | rowChanged role =>
    show e.Checks desk.notes (e.rowChanged role desk)
    unfold rowChanged
    obtain ⟨name, hname⟩ := Option.isSome_iff_exists.mp h
    rw [hname]
    exact checks_save e true false desk
  | deleteRow target =>
    exact (checks_save (e.editRows fun rows ↦ Policy.removeLast rows target) true false desk).of_eq
      rfl rfl
  | addTag tag =>
    let edited := { e with
      rows := e.rows ++ [Policy.readWrite tag.value Policy.seriesField]
      roles := e.roles.ensure tag.value
      tags := if tag ∈ e.tags then e.tags else e.tags ++ [tag] }
    exact (checks_save edited false false desk).of_eq rfl rfl
  | removeTag tag =>
    let edited := { e with
      rows := e.rows.filter fun p ↦ p.role ≠ some tag.value
      tags := e.tags.filter fun t ↦ t ≠ tag }
    exact (checks_save edited false false desk).of_eq rfl rfl
  | save reload overrideEvents => exact checks_save e reload overrideEvents desk
  | load => cases h
  | setFlags flags => cases h
  | addRow => cases h
  | editRows edit => cases h
  | reloadTags => cases h
  | moreRoles search => cases h

/-! ### Rests -/

omit [NoteSink ν] in
private theorem locked_introduced (e : SeriesEditor) (node : σ) :
    (e.introduced node).locked = e.locked := by
  obtain ⟨org, mode, users, h⟩ := e.exists_introduced_eq node
  rw [h]

omit [NoteSink ν] in
private theorem locked_loadPickers (e : SeriesEditor) (desk : Desk σ ν) :
    (e.loadPickers desk).editor.locked = e.locked := by
  obtain ⟨actions, roles, node, h⟩ := e.exists_loadPickers_eq desk
  rw [h]

/-- A load that shows no list leaves the lock as it is known. -/
theorem locked_load_of_not_listRead (e : SeriesEditor) (desk : Desk σ ν)
    (h : ¬AdminNode.ListRead e.series desk.node) : (e.load desk).editor.locked = e.locked := by
  rw [load_eq, Desk.call_eq]
  cases hread : (AdminNode.readAccess e.series desk.node).1 with
  | error error => exact e.locked_introduced desk.node
  | ok envelope =>
    obtain ⟨_ | block⟩ := envelope
    · exact (locked_loadPickers _ _).trans (e.locked_introduced desk.node)
    · dsimp only
      cases hentries : block.entries with
      | error error => exact e.locked_introduced desk.node
      | ok entries => exact absurd ⟨block, entries, hread, hentries⟩ h

/-- A load shows a list with its lock or leaves the banners alone. -/
theorem rests_load (e : SeriesEditor) (desk : Desk σ ν) :
    e.Rests desk.notes (e.perform .load desk) := by
  have hanswer : answersSaved (e.perform .load desk).answer = false := by
    show answersSaved ((e.load desk).answer.map fun _ ↦ none) = false
    cases (e.load desk).answer <;> rfl
  refine ⟨hanswer, ?_⟩
  by_cases hread : AdminNode.ListRead e.series desk.node
  · obtain ⟨block, entries, hblock, hentries⟩ := hread
    have hlocked : (e.perform .load desk).editor.locked = block.locked :=
      (e.load_of_block desk hblock hentries).2.2
    rw [hlocked]
    exact .inr (e.banners_load_of_block desk hblock hentries)
  · exact .inl ⟨e.locked_load_of_not_listRead desk hread, e.valid,
      e.banners_load_of_not_listRead desk hread⟩

/-- An operation that does not get as far as a save leaves the banners alone or shows a lock. -/
theorem rests_perform (e : SeriesEditor) {op : SeriesOp} {desk : Desk σ ν}
    (h : op.checks desk.node = false) : e.Rests desk.notes (e.perform op desk) := by
  cases op with
  | load => exact e.rests_load desk
  | changeEntries entries loading =>
    cases loading with
    | true =>
      refine ⟨rfl, .inl ⟨e.locked_replaceRows entries, true, ?_⟩⟩
      rw [← e.banners_replaceRows entries desk.notes]
      rfl
    | false => cases h
  | switchTemplate id overrideEvents =>
    have hnone := Option.not_isSome_iff_eq_none.mp (Bool.eq_false_iff.mp h)
    show e.Rests desk.notes ((e.switchTemplate id overrideEvents desk).map some)
    rw [e.switchTemplate_eq_error hnone]
    exact ⟨rfl, .inl ⟨rfl, e.valid, rfl⟩⟩
  | applyManaged id =>
    show e.Rests desk.notes (e.applyManaged id desk)
    unfold applyManaged
    rw [Desk.call_eq]
    rw [SeriesOp.checks] at h
    cases hanswer : (AdminNode.managedAcl id desk.node).1 with
    | error error => exact ⟨rfl, .inl ⟨rfl, e.valid, rfl⟩⟩
    | ok managed =>
      rw [hanswer] at h
      cases h
  | rowChanged role =>
    have hnone := Option.not_isSome_iff_eq_none.mp (Bool.eq_false_iff.mp h)
    show e.Rests desk.notes (e.rowChanged role desk)
    unfold rowChanged
    rw [hnone]
    exact ⟨rfl, .inl ⟨rfl, e.valid, rfl⟩⟩
  | moreRoles search =>
    refine ⟨?_, .inl ⟨rfl, e.valid, rfl⟩⟩
    show answersSaved ((e.moreRoles search desk).answer.map fun _ ↦ none) = false
    cases (e.moreRoles search desk).answer <;> rfl
  | addRow => exact ⟨rfl, .inl ⟨rfl, false, rfl⟩⟩
  | setFlags flags => exact ⟨rfl, .inl ⟨rfl, e.valid, rfl⟩⟩
  | editRows edit => exact ⟨rfl, .inl ⟨rfl, e.valid, rfl⟩⟩
  | reloadTags => exact ⟨rfl, .inl ⟨rfl, e.valid, rfl⟩⟩
  | deleteRow target => cases h
  | addTag tag => cases h
  | removeTag tag => cases h
  | save reload overrideEvents => cases h

end SeriesEditor

/-! ### The slots of an editor -/

/-- What the slots of an editor are about. -/
inductive EditorSlot where
  | rules
  | lock
  deriving DecidableEq

/-- An editor has two slots. -/
instance : Fintype EditorSlot := ⟨{.rules, .lock}, fun i ↦ by cases i <;> decide⟩

namespace Banners

variable {ν : Type}

/-- The slots of an editor. -/
def slots (b : Banners ν) : EditorSlot → Slot
  | .rules => b.rules
  | .lock => b.lock

/-- The notes that the slots of an editor raise. -/
def label (series : String) : EditorSlot → Note
  | .rules => Note.warning Note.invalidRules Note.aclContext
  | .lock => Note.warning Note.listLocked (Note.lockContext series)

private theorem key_label_inj (series : String) {i j : EditorSlot} :
    (label series j).key = (label series i).key ↔ j = i := by
  cases i <;> cases j <;> simp only [label, Note.warning] <;> decide

private theorem key_label_ne (series : String) (i : EditorSlot) :
    (label series i).key ≠ Note.listSaved := by
  cases i <;> simp only [label, Note.warning] <;> decide

/-- The message about a save. -/
def savedNote : Note := Note.info Note.listSaved Note.aclContext SeriesEditor.savedDuration

variable [NoteSink ν] [FreshSink ν]

/-- The banners of an editor are what slots that share a logbook show, which nobody disturbs. -/
structure Follows (b : Banners (Logbook ν)) (x : SharedSlots EditorSlot (Logbook ν)) : Prop where
  slots : x.slots = b.slots
  notes : x.notes = b.notes
  sound : ∃ standing, x.Sound standing
  undisturbed : x.Undisturbed
  labelled : x.Labelled (label b.series)
  faithful : x.notes.Faithful

/-- What the notes of an editor tell: whether the list is locked, whether the last check failed, and
how many saves there were. -/
structure Tells (b : Banners (Logbook ν)) (locked : Bool) (lastCheck : Option Bool) (saves : Nat)
    (x : SharedSlots EditorSlot (Logbook ν)) : Prop extends b.Follows x where
  rules : b.rules.isRaised = decide (lastCheck = some false)
  lock : b.lock.isRaised = locked
  direct : x.direct.map Prod.snd = List.replicate saves savedNote

variable {b : Banners (Logbook ν)} {x : SharedSlots EditorSlot (Logbook ν)}

/-- The banners follow the slots when one of them raises or clears its note. -/
theorem Follows.toggle (h : b.Follows x) (i : EditorSlot) (condition : Bool)
    {b' : Banners (Logbook ν)} (hseries : b'.series = b.series)
    (hslots : b'.slots =
      Function.update b.slots i ((b.slots i).toggle condition (label b.series i) b.notes).1)
    (hnotes : b'.notes = ((b.slots i).toggle condition (label b.series i) b.notes).2) :
    b'.Follows (x.ask i (.toggle condition (label b.series i))) := by
  obtain ⟨standing, hsound⟩ := h.sound
  refine ⟨?_, ?_, hsound.ask i fun _ _ ↦ trivial, h.undisturbed.ask i _, ?_,
    hsound.faithful_ask h.undisturbed h.faithful i _⟩
  · rw [hslots, SharedSlots.slots_ask, h.slots, h.notes]
    rfl
  · rw [hnotes, SharedSlots.notes_ask, h.slots, h.notes]
    rfl
  · rw [hseries]
    apply h.labelled.ask
    exact fun n hn ↦ (Option.some.inj hn).symm

namespace Tells

variable {locked : Bool} {lastCheck : Option Bool} {saves : Nat}

private theorem checked (h : b.Tells locked lastCheck saves x) (ok : Bool) :
    (b.checked ok).Tells locked (some ok) saves
      (x.ask .rules (.toggle (!ok) (label b.series .rules))) := by
  have hfollows : (b.checked ok).Follows
      (x.ask .rules (.toggle (!ok) (label b.series .rules))) := by
    refine h.toFollows.toggle .rules (!ok) rfl ?_ rfl
    funext i
    cases i <;> rfl
  have hraised := x.isRaised_ask .rules (.toggle (!ok) (label b.series .rules))
  rw [hfollows.slots] at hraised
  refine ⟨hfollows, ?_, h.lock, ?_⟩
  · exact hraised.trans (by cases ok <;> rfl)
  · rw [SharedSlots.direct_ask]
    exact h.direct

private theorem shown (h : b.Tells locked lastCheck saves x) (locked' : Bool) :
    (b.shown locked').Tells locked' lastCheck saves
      (x.ask .lock (.toggle locked' (label b.series .lock))) := by
  have hfollows : (b.shown locked').Follows
      (x.ask .lock (.toggle locked' (label b.series .lock))) := by
    refine h.toFollows.toggle .lock locked' rfl ?_ rfl
    funext i
    cases i <;> rfl
  have hraised := x.isRaised_ask .lock (.toggle locked' (label b.series .lock))
  rw [hfollows.slots] at hraised
  refine ⟨hfollows, h.rules, hraised, ?_⟩
  rw [SharedSlots.direct_ask]
  exact h.direct

private theorem saved (h : b.Tells locked lastCheck saves x) :
    b.saved.Tells locked lastCheck (saves + 1) (x.post savedNote) := by
  obtain ⟨standing, hsound⟩ := h.sound
  refine ⟨⟨h.slots, ?_, ⟨_, hsound.post trivial⟩, h.undisturbed, h.labelled, ?_⟩, h.rules, h.lock,
    ?_⟩
  · show (NoteSink.add savedNote x.notes).2 = (NoteSink.add savedNote b.notes).2
    rw [h.notes]
  · exact h.faithful.add savedNote
  · show (x.direct ++ [_]).map Prod.snd = _
    rw [List.map_append, h.direct, List.replicate_succ']
    rfl

/-- Whether the rows count as valid has no say in the notes. -/
theorem revalued (h : b.Tells locked lastCheck saves x) (valid : Bool) :
    { b with valid := valid }.Tells locked lastCheck saves x :=
  ⟨⟨h.slots, h.notes, h.sound, h.undisturbed, h.labelled, h.faithful⟩, h.rules, h.lock, h.direct⟩

/-- No message about a save has the key of a slot. -/
theorem key_direct (h : b.Tells locked lastCheck saves x) :
    ∀ s ∈ x.direct, s.2.key = Note.listSaved := by
  intro s hs
  have hmem : s.2 ∈ List.replicate saves savedNote := h.direct ▸ List.mem_map_of_mem hs
  rw [(List.mem_replicate.mp hmem).2]
  rfl

/-- Of the notes with the key of a slot, the one of the slot stands while it is raised. -/
theorem standing_slot (h : b.Tells locked lastCheck saves x) (i : EditorSlot) :
    (b.notes.standing.filter fun s ↦ s.2.key == (label b.series i).key).map Prod.snd =
      if (b.slots i).isRaised then [label b.series i] else [] := by
  obtain ⟨standing, hsound⟩ := h.sound
  have hfilter : standing.filter (fun s ↦ s.2.key == (label b.series i).key) = x.shown i := by
    apply hsound.filter_eq_shown h.labelled (p := fun n ↦ n.key == (label b.series i).key)
    · intro s hs hs'
      exact key_label_ne b.series i ((beq_iff_eq.mp hs').symm.trans (h.key_direct s hs))
    · exact fun j ↦ beq_iff_eq.trans (key_label_inj b.series)
  rw [← h.notes, Logbook.keeps_iff.mp hsound.keeps, hfilter, hsound.map_shown h.labelled,
    h.undisturbed.isRaised_and, h.slots]

/-- The messages about saves all stand. -/
theorem standing_saved (h : b.Tells locked lastCheck saves x) :
    (b.notes.standing.filter fun s ↦ s.2.key == Note.listSaved).map Prod.snd =
      List.replicate saves savedNote := by
  obtain ⟨standing, hsound⟩ := h.sound
  have hslots : ∀ i, (x.shown i).filter (fun s ↦ s.2.key == Note.listSaved) = [] := by
    intro i
    rw [List.filter_eq_nil_iff]
    intro s hs
    have hlabel : s.2 = label b.series i := h.labelled i s (SharedSlots.mem_shown.mp hs).1
    rw [hlabel]
    exact fun hkey ↦ key_label_ne b.series i (beq_iff_eq.mp hkey)
  have hperm : (standing.filter fun s ↦ s.2.key == Note.listSaved).Perm x.direct := by
    rw [← Multiset.coe_eq_coe, hsound.filter_standing, Finset.sum_eq_zero, add_zero,
      List.filter_eq_self.mpr fun s hs ↦ beq_iff_eq.mpr (h.key_direct s hs)]
    intro i _
    rw [hslots i]
    rfl
  rw [← h.notes, Logbook.keeps_iff.mp hsound.keeps]
  rw [← List.perm_replicate, ← h.direct]
  exact hperm.map Prod.snd

end Tells

end Banners

/-! ### Runs -/

/-- An editor and its desk, with the answer of the last check of its rows and the number of
operations that were answered with `saved`. -/
structure EditorSession (σ ν : Type) where
  editor : SeriesEditor
  desk : Desk σ (Logbook ν)
  lastCheck : Option Bool
  saves : Nat

/-- A step of a run: of the editor, or of the node on its own. -/
inductive EditorEvent (σ : Type) where
  | ask (op : SeriesOp)
  | node (change : σ → σ)

namespace EditorSession

variable {σ ν : Type} [AdminNode σ] [NoteSink ν]

/-- A new editor, which has posted nothing. -/
def make (series : String) (rolePage : Nat) (node : σ) (sink : ν) : EditorSession σ ν :=
  ⟨SeriesEditor.make series rolePage, ⟨node, Logbook.fresh sink⟩, none, 0⟩

/-- A session after a step. -/
def step (x : EditorSession σ ν) : EditorEvent σ → EditorSession σ ν
  | .ask op =>
    let turn := x.editor.perform op x.desk
    { editor := turn.editor
      desk := turn.desk
      lastCheck :=
        if op.checks x.desk.node then some (Policy.check turn.editor.rows .relaxed).rulesValid
        else x.lastCheck
      saves := if SeriesEditor.answersSaved turn.answer then x.saves + 1 else x.saves }
  | .node change => { x with desk := { x.desk with node := change x.desk.node } }

variable [FreshSink ν]

/-- The notes of a session tell what happened in it. -/
def Tells (x : EditorSession σ ν) : Prop :=
  ∃ slots, (x.editor.banners x.desk.notes).Tells x.editor.locked x.lastCheck x.saves slots

omit [AdminNode σ] in
private theorem tells_make (series : String) (rolePage : Nat) (node : σ) (sink : ν) :
    (make series rolePage node sink).Tells := by
  have hkeeps : NoteKeeper.Keeps (Logbook.fresh sink) [] := Logbook.keeps_iff.mpr rfl
  refine ⟨SharedSlots.make (Logbook.fresh sink), ⟨?_, rfl, ⟨[], SharedSlots.Sound.make hkeeps⟩,
    fun _ _ ↦ rfl, nofun, Logbook.Faithful.fresh sink⟩, rfl, rfl, rfl⟩
  funext i
  cases i <;> rfl

private theorem Tells.step {x : EditorSession σ ν} (h : x.Tells) (event : EditorEvent σ) :
    (x.step event).Tells := by
  obtain ⟨slots, h⟩ := h
  cases event with
  | node change => exact ⟨slots, h⟩
  | ask op =>
    rw [EditorSession.step]
    cases hchecks : op.checks x.desk.node with
    | true =>
      obtain ⟨hlocked, hbanners⟩ := x.editor.checks_perform hchecks
      have hchecked := h.checked
        (Policy.check (x.editor.perform op x.desk).editor.rows .relaxed).rulesValid
      unfold Tells
      dsimp only
      rw [hlocked, hbanners]
      split
      · exact ⟨_, hchecked.saved⟩
      · exact ⟨_, hchecked⟩
    | false =>
      obtain ⟨hanswer, ⟨hlocked, valid, hbanners⟩ | hbanners⟩ := x.editor.rests_perform hchecks
      · unfold Tells
        dsimp only
        rw [hanswer, hlocked, hbanners]
        exact ⟨slots, h.revalued valid⟩
      · unfold Tells
        dsimp only
        rw [hanswer, hbanners]
        exact ⟨_, h.shown _⟩

private theorem tells_run (series : String) (rolePage : Nat) (node : σ) (sink : ν)
    (events : List (EditorEvent σ)) :
    (events.foldl EditorSession.step (make series rolePage node sink)).Tells :=
  List.foldlRecOn events EditorSession.step (tells_make series rolePage node sink)
    fun _ h event _ ↦ h.step event

/-- The notes of an editor in any run, whatever the node answers, over a sink with fresh ids that
lets no note expire. The note about the lock stands once while the list is locked, and otherwise
not; the one about rows stands once when the last check failed, and otherwise not; as many messages
about saves stand as operations were answered with `saved`; and every removal takes down a note that
the editor posted and that still stands. -/
theorem notes_run (series : String) (rolePage : Nat) (node : σ) (sink : ν)
    (events : List (EditorEvent σ)) :
    let x := events.foldl EditorSession.step (make series rolePage node sink)
    let standing := fun key ↦ (x.desk.notes.standing.filter fun s ↦ s.2.key == key).map Prod.snd
    (standing Note.listLocked =
        if x.editor.locked then
          [Note.warning Note.listLocked (Note.lockContext x.editor.series)]
        else []) ∧
      (standing Note.invalidRules =
        if x.lastCheck = some false then [Note.warning Note.invalidRules Note.aclContext] else []) ∧
      standing Note.listSaved = List.replicate x.saves
        (Note.info Note.listSaved Note.aclContext SeriesEditor.savedDuration) ∧
      x.desk.notes.Faithful := by
  intro x standing
  obtain ⟨slots, h⟩ := tells_run series rolePage node sink events
  have hlock : (x.editor.banners x.desk.notes).lock.isRaised = x.editor.locked := h.lock
  have hrules : (x.editor.banners x.desk.notes).rules.isRaised =
      decide (x.lastCheck = some false) := h.rules
  refine ⟨?_, ?_, h.standing_saved, ?_⟩
  · rw [← hlock]
    exact h.standing_slot .lock
  · rw [← Bool.cond_decide, ← hrules, Bool.cond_eq_ite]
    exact h.standing_slot .rules
  · exact (show slots.notes = x.desk.notes from h.notes) ▸ h.faithful

/-- A series whose list is locked. -/
def lockedNode : Store :=
  Store.empty.putList "a" [⟨"ROLE_A", "read", true⟩, ⟨"ROLE_A", "write", true⟩] true

/-- The list gets an empty row, which keeps it from being saved, and loses it again. -/
def blankRow : List (EditorEvent Store) :=
  [.ask .load, .ask .addRow, .ask (.save false false),
    .ask (.deleteRow (Policy.blank none Policy.seriesField))]

/-- The lock stands, the warning about rows went with the row, and one save was reported. -/
theorem notes_run_blankRow :
    let x := blankRow.foldl EditorSession.step (make "a" 100 lockedNode Board.empty)
    let standing := fun key ↦ (x.desk.notes.standing.filter fun s ↦ s.2.key == key).map Prod.snd
    standing Note.listLocked = [Note.warning Note.listLocked (Note.lockContext "a")] ∧
      standing Note.invalidRules = [] ∧
      standing Note.listSaved =
        [Note.info Note.listSaved Note.aclContext SeriesEditor.savedDuration] ∧
      x.desk.notes.Faithful :=
  notes_run "a" 100 lockedNode Board.empty blankRow

end EditorSession

end SeriesAcl
