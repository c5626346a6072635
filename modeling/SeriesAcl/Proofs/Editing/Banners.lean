import SeriesAcl.Proofs.Editing.Loading
import SeriesAcl.Proofs.Editing.Operations
import SeriesAcl.Proofs.Notice.Boards

/-!
# The banners of an editor

The permissions tab shows two banners that stand until they are taken down: one about rows that do
not pass the check, one about a list that is locked. An operation checks the rows, and then the
banner about them follows the answer, or it takes rows over unchecked, and then the rows count as
valid while the banner stays (`banners_perform`). On a board the first kind keeps the banners true
(`Truthful.step`), the second only while no banner about rows stands (`Truthful.take`,
`standingRules_take`).
-/

namespace SeriesAcl

/-- What an editor and the notes have to do with banners. -/
structure Banners (ν : Type) where
  series : String
  rules : Slot
  lock : Slot
  valid : Bool
  notes : ν

namespace Banners

section Sink

variable {ν : Type} [NoteSink ν]

/-- The banners after a check of the rows. -/
def checked (b : Banners ν) (ok : Bool) : Banners ν :=
  let (slot, notes) := b.rules.toggle (!ok) (Note.warning Note.invalidRules Note.aclContext) b.notes
  { b with rules := slot, valid := ok, notes := notes }

/-- The banners after a message about a save. -/
def saved (b : Banners ν) : Banners ν :=
  let (_, notes) :=
    NoteSink.add (Note.info Note.listSaved Note.aclContext SeriesEditor.savedDuration) b.notes
  { b with notes := notes }

/-- The banners after a list was shown with its lock. -/
def shown (b : Banners ν) (locked : Bool) : Banners ν :=
  let (slot, notes) := b.lock.toggle locked
    (Note.warning Note.listLocked (Note.lockContext b.series)) b.notes
  { b with lock := slot, valid := true, notes := notes }

/-- What an operation does that takes no rows over unchecked. -/
inductive Step (b : Banners ν) : Banners ν → Prop
  | rest : Step b b
  | spoil : Step b { b with valid := false }
  | check (ok : Bool) : Step b (b.checked ok)
  | save : Step b (b.checked true).saved

/-- What an operation does that takes rows over unchecked. -/
inductive Take (b : Banners ν) : Banners ν → Prop
  | accept : Take b { b with valid := true }
  | display (locked : Bool) : Take b (b.shown locked)

end Sink

end Banners

/-- Whether an operation takes rows over without a check: a load whose list can be read, and rows
that are replaced while loading. -/
def SeriesOp.TakesUnchecked {σ : Type} [AdminNode σ] (series : String) (node : σ) :
    SeriesOp → Prop
  | .load => AdminNode.ListRead series node
  | .changeEntries _ loading => loading = true
  | _ => False

namespace SeriesEditor

variable {σ ν : Type} [AdminNode σ] [NoteSink ν]

/-- The banners of an editor among some notes. -/
def banners (e : SeriesEditor) (notes : ν) : Banners ν :=
  ⟨e.series, e.rulesNotice, e.lockNotice, e.valid, notes⟩

/-! ### Operations -/

omit [NoteSink ν] in
/-- New rows leave the banners. -/
theorem banners_replaceRows (e : SeriesEditor) (entries : List Entry) (notes : ν) :
    (e.replaceRows entries).banners notes = e.banners notes := by
  unfold replaceRows
  dsimp only
  split <;> rfl

omit [NoteSink ν] in
private theorem banners_introduced (e : SeriesEditor) (node : σ) (notes : ν) :
    (e.introduced node).banners notes = e.banners notes := by
  obtain ⟨org, mode, users, h⟩ := e.exists_introduced_eq node
  rw [h]
  rfl

omit [NoteSink ν] in
private theorem banners_loadPickers (e : SeriesEditor) (desk : Desk σ ν) :
    (e.loadPickers desk).editor.banners (e.loadPickers desk).desk.notes = e.banners desk.notes := by
  obtain ⟨actions, roles, node, h⟩ := e.exists_loadPickers_eq desk
  rw [h]
  rfl

/-- A save checks the rows. -/
theorem banners_save (e : SeriesEditor) (reload overrideEvents : Bool) (desk : Desk σ ν) :
    (e.banners desk.notes).Step ((e.save reload overrideEvents desk).editor.banners
      (e.save reload overrideEvents desk).desk.notes) := by
  have hcheck := Banners.Step.check (b := e.banners desk.notes)
    (Policy.check e.rows .relaxed).rulesValid
  unfold save
  dsimp only
  split
  · next hv =>
    have hrules : (Policy.check e.rows .relaxed).rulesValid = true := hv
    rw [Desk.call_eq]
    dsimp only
    cases (AdminNode.saveSeriesAccess e.series
      ⟨Policy.toEntries e.rows, e.updateMode.overrides overrideEvents⟩ desk.node).1 with
    | error error => exact hcheck
    | ok _ =>
      have hsave := Banners.Step.save (b := e.banners desk.notes)
      rw [hrules]
      cases reload <;> exact hsave
  · exact hcheck

/-- A load that shows a list takes its rows over and tells its lock. -/
theorem banners_load_of_block (e : SeriesEditor) (desk : Desk σ ν) {block : SeriesAccess}
    {entries : List Entry}
    (hread : (AdminNode.readAccess e.series desk.node).1 = .ok ⟨some block⟩)
    (hentries : block.entries = .ok entries) :
    (e.load desk).editor.banners (e.load desk).desk.notes =
      (e.banners desk.notes).shown block.locked := by
  rw [load_eq, Desk.call_eq, hread]
  dsimp only
  rw [hentries]
  dsimp only
  rw [banners_loadPickers, ← e.banners_introduced desk.node desk.notes,
    ← banners_replaceRows (e.introduced desk.node) entries]
  rfl

private theorem banners_load_of_listRead (e : SeriesEditor) (desk : Desk σ ν)
    (h : AdminNode.ListRead e.series desk.node) :
    ∃ locked, (e.load desk).editor.banners (e.load desk).desk.notes =
      (e.banners desk.notes).shown locked := by
  obtain ⟨block, entries, hread, hentries⟩ := h
  exact ⟨block.locked, e.banners_load_of_block desk hread hentries⟩

/-- Any other load leaves the banners alone. -/
theorem banners_load_of_not_listRead (e : SeriesEditor) (desk : Desk σ ν)
    (h : ¬AdminNode.ListRead e.series desk.node) :
    (e.load desk).editor.banners (e.load desk).desk.notes = e.banners desk.notes := by
  rw [load_eq, Desk.call_eq]
  cases hread : (AdminNode.readAccess e.series desk.node).1 with
  | error error => exact e.banners_introduced desk.node desk.notes
  | ok envelope =>
    obtain ⟨_ | block⟩ := envelope
    · exact (banners_loadPickers _ _).trans (e.banners_introduced desk.node desk.notes)
    · dsimp only
      cases hentries : block.entries with
      | error error => exact e.banners_introduced desk.node desk.notes
      | ok entries => exact absurd ⟨block, entries, hread, hentries⟩ h

/-- A load leaves the banners alone, or it takes rows over. -/
theorem banners_load (e : SeriesEditor) (desk : Desk σ ν) :
    (AdminNode.ListRead e.series desk.node ∧ (e.banners desk.notes).Take
        ((e.load desk).editor.banners (e.load desk).desk.notes)) ∨
      ¬AdminNode.ListRead e.series desk.node ∧
        (e.load desk).editor.banners (e.load desk).desk.notes = e.banners desk.notes := by
  by_cases h : AdminNode.ListRead e.series desk.node
  · obtain ⟨locked, hshown⟩ := e.banners_load_of_listRead desk h
    rw [hshown]
    exact .inl ⟨h, .display locked⟩
  · exact .inr ⟨h, e.banners_load_of_not_listRead desk h⟩

/-- An operation takes rows over unchecked or makes another step. -/
theorem banners_perform (e : SeriesEditor) (op : SeriesOp) (desk : Desk σ ν) :
    let turn := e.perform op desk
    (op.TakesUnchecked e.series desk.node ∧
        (e.banners desk.notes).Take (turn.editor.banners turn.desk.notes)) ∨
      ¬op.TakesUnchecked e.series desk.node ∧
        (e.banners desk.notes).Step (turn.editor.banners turn.desk.notes) := by
  cases op with
  | load =>
    rcases e.banners_load desk with h | ⟨hread, hsame⟩
    · exact .inl h
    · refine .inr ⟨hread, ?_⟩
      show (e.banners desk.notes).Step ((e.load desk).editor.banners (e.load desk).desk.notes)
      rw [hsame]
      exact .rest
  | changeEntries entries loading =>
    cases loading with
    | true =>
      refine .inl ⟨rfl, ?_⟩
      rw [← e.banners_replaceRows entries desk.notes]
      exact .accept
    | false =>
      refine .inr ⟨Bool.false_ne_true, ?_⟩
      rw [← e.banners_replaceRows entries desk.notes]
      exact banners_save _ false false desk
  | switchTemplate id overrideEvents =>
    refine .inr ⟨fun h ↦ h, ?_⟩
    show (e.banners desk.notes).Step ((e.switchTemplate id overrideEvents desk).editor.banners
      (e.switchTemplate id overrideEvents desk).desk.notes)
    cases ht : Template.byId? id with
    | none =>
      rw [e.switchTemplate_eq_error ht]
      exact .rest
    | some t =>
      have hswitched : (e.switched t).banners desk.notes = e.banners desk.notes :=
        banners_replaceRows _ _ _
      rw [e.switchTemplate_eq ht, ← hswitched]
      exact banners_save _ false overrideEvents desk
  | applyManaged id =>
    refine .inr ⟨fun h ↦ h, ?_⟩
    show (e.banners desk.notes).Step ((e.applyManaged id desk).editor.banners
      (e.applyManaged id desk).desk.notes)
    unfold applyManaged
    rw [Desk.call_eq]
    cases (AdminNode.managedAcl id desk.node).1 with
    | error error => exact .rest
    | ok managed =>
      rw [← e.banners_replaceRows managed.entries desk.notes]
      exact banners_save _ false false { desk with node := (AdminNode.managedAcl id desk.node).2 }
  | setFlags flags => exact .inr ⟨fun h ↦ h, .rest⟩
  | addRow => exact .inr ⟨fun h ↦ h, .spoil⟩
  | editRows edit => exact .inr ⟨fun h ↦ h, .rest⟩
  | deleteRow target => exact .inr ⟨fun h ↦ h, banners_save (e.editRows _) true false desk⟩
  | addTag tag =>
    let edited := { e with
      rows := e.rows ++ [Policy.readWrite tag.value Policy.seriesField]
      roles := e.roles.ensure tag.value
      tags := if tag ∈ e.tags then e.tags else e.tags ++ [tag] }
    exact .inr ⟨fun h ↦ h, banners_save edited false false desk⟩
  | removeTag tag =>
    let edited := { e with
      rows := e.rows.filter fun p ↦ p.role ≠ some tag.value
      tags := e.tags.filter fun t ↦ t ≠ tag }
    exact .inr ⟨fun h ↦ h, banners_save edited false false desk⟩
  | rowChanged role =>
    refine .inr ⟨fun h ↦ h, ?_⟩
    show (e.banners desk.notes).Step ((e.rowChanged role desk).editor.banners
      (e.rowChanged role desk).desk.notes)
    unfold rowChanged
    split
    · exact banners_save e true false desk
    · exact .rest
  | reloadTags => exact .inr ⟨fun h ↦ h, .rest⟩
  | save reload overrideEvents => exact .inr ⟨fun h ↦ h, banners_save e reload overrideEvents desk⟩
  | moreRoles search => exact .inr ⟨fun h ↦ h, .rest⟩

end SeriesEditor

/-! ### Banners on a board -/

private theorem Note.lockContext_ne (series : String) :
    Note.lockContext series ≠ Note.aclContext := by
  intro h
  have hlength := congrArg String.length h
  rw [Note.lockContext, String.length_append, String.length_append] at hlength
  have hdash : ("-" : String).length = 1 := by decide
  omega

namespace Banners

variable {b b' : Banners Board}

/-- The banners about rows that stand. -/
def standingRules (b : Banners Board) : List NoteId :=
  b.notes.standing Note.aclContext Note.invalidRules

/-- The banners about the lock that stand in a context. -/
def standingLock (b : Banners Board) (context : String) : List NoteId :=
  b.notes.standing context Note.listLocked

/-- What always holds of the banners of an editor: the board is in order, banners stand until they
are taken down, and the slots know the contexts of their banners. -/
structure Orderly (b : Banners Board) : Prop where
  sorted : b.notes.contexts.Sorted
  rulesUntimed : b.notes.Untimed Note.invalidRules
  lockUntimed : b.notes.Untimed Note.listLocked
  rulesContext : ∀ id context, b.rules.current = some (id, context) → context = Note.aclContext
  lockContext : ∀ id context, b.lock.current = some (id, context) →
    context = Note.lockContext b.series

/-- The banners tell the truth: those about rows are the one in the slot, whose rows do not count as
valid, and those about the lock are of the series. -/
structure Truthful (b : Banners Board) : Prop where
  rules : b.standingRules = (b.rules.current.map Prod.fst).toList
  valid : b.rules.isRaised = true → b.valid = false
  lock : ∀ context, b.standingLock context ≠ [] → context = Note.lockContext b.series

/-! ### Slots and standing notes -/

private theorem current_checked (b : Banners Board) (ok : Bool) :
    (b.checked ok).rules.current =
      if !ok then some (⟨(b.rules.clear b.notes).2.nextId⟩, Note.aclContext) else none :=
  b.rules.current_toggle _ _ _

private theorem current_shown (b : Banners Board) (locked : Bool) :
    (b.shown locked).lock.current =
      if locked then some (⟨(b.lock.clear b.notes).2.nextId⟩, Note.lockContext b.series)
      else none :=
  b.lock.current_toggle _ _ _

private theorem standing_checked (h : b.Orderly) (ok : Bool) (context key : String) :
    (b.checked ok).notes.standing context key =
      (b.rules.clear b.notes).2.standing context key ++
        if (!ok) = true ∧ Note.aclContext = context ∧ Note.invalidRules = key then
          [⟨(b.rules.clear b.notes).2.nextId⟩] else [] :=
  b.rules.standing_toggle h.sorted _ _ _ _ _

private theorem standing_shown (h : b.Orderly) (locked : Bool) (context key : String) :
    (b.shown locked).notes.standing context key =
      (b.lock.clear b.notes).2.standing context key ++
        if locked = true ∧ Note.lockContext b.series = context ∧ Note.listLocked = key then
          [⟨(b.lock.clear b.notes).2.nextId⟩] else [] :=
  b.lock.standing_toggle h.sorted _ _ _ _ _

/-- A message about a save is no banner. -/
theorem standing_saved (h : b.Orderly) {key : String} (hkey : Note.listSaved ≠ key)
    (context : String) : b.saved.notes.standing context key = b.notes.standing context key := by
  have hadd := Board.standing_add h.sorted
    (Note.info Note.listSaved Note.aclContext SeriesEditor.savedDuration) context key
  rw [if_neg fun hc ↦ hkey hc.2.1, List.append_nil] at hadd
  exact hadd

/-! ### Order -/

private theorem Orderly.checked (h : b.Orderly) (ok : Bool) : (b.checked ok).Orderly where
  sorted := b.rules.sorted_toggle h.sorted _ _
  rulesUntimed := b.rules.untimed_toggle h.rulesUntimed h.sorted _ rfl
  lockUntimed := b.rules.untimed_toggle h.lockUntimed h.sorted _ rfl
  rulesContext := by
    intro id context hcurrent
    rw [current_checked] at hcurrent
    split at hcurrent
    · exact (Prod.mk.inj (Option.some.inj hcurrent)).2.symm
    · cases hcurrent
  lockContext := h.lockContext

private theorem Orderly.saved (h : b.Orderly) : b.saved.Orderly where
  sorted := Board.sorted_add h.sorted _
  rulesUntimed := h.rulesUntimed.add h.sorted fun hkey ↦ absurd hkey (by decide)
  lockUntimed := h.lockUntimed.add h.sorted fun hkey ↦ absurd hkey (by decide)
  rulesContext := h.rulesContext
  lockContext := h.lockContext

private theorem Orderly.shown (h : b.Orderly) (locked : Bool) : (b.shown locked).Orderly where
  sorted := b.lock.sorted_toggle h.sorted _ _
  rulesUntimed := b.lock.untimed_toggle h.rulesUntimed h.sorted _ rfl
  lockUntimed := b.lock.untimed_toggle h.lockUntimed h.sorted _ rfl
  rulesContext := h.rulesContext
  lockContext := by
    intro id context hcurrent
    rw [current_shown] at hcurrent
    split at hcurrent
    · exact (Prod.mk.inj (Option.some.inj hcurrent)).2.symm
    · cases hcurrent

/-- Banners stay in order where no rows are taken over unchecked. -/
theorem Orderly.step (h : b.Orderly) (hs : b.Step b') : b'.Orderly := by
  cases hs with
  | rest => exact h
  | spoil => exact ⟨h.sorted, h.rulesUntimed, h.lockUntimed, h.rulesContext, h.lockContext⟩
  | check ok => exact h.checked ok
  | save => exact (h.checked true).saved

/-- Banners stay in order where rows are taken over unchecked. -/
theorem Orderly.take (h : b.Orderly) (ht : b.Take b') : b'.Orderly := by
  cases ht with
  | accept => exact ⟨h.sorted, h.rulesUntimed, h.lockUntimed, h.rulesContext, h.lockContext⟩
  | display locked => exact h.shown locked

/-! ### Truth -/

/-- To show a lock has no say in the banners about rows. -/
theorem standingRules_shown (h : b.Orderly) (locked : Bool) :
    (b.shown locked).standingRules = b.standingRules := by
  rw [standingRules, standing_shown h, if_neg fun hc ↦ Note.lockContext_ne b.series hc.2.1,
    List.append_nil]
  apply Slot.standing_clear_of_ne
  intro id own hcurrent
  rw [h.lockContext id own hcurrent]
  exact Note.lockContext_ne b.series

/-- The banners about the lock after it was shown are of the series or stood before. -/
theorem standingLock_of_shown (h : b.Orderly) {locked : Bool} {context : String}
    (hs : (b.shown locked).standingLock context ≠ []) :
    b.standingLock context ≠ [] ∨ context = Note.lockContext b.series := by
  by_cases hc : Note.lockContext b.series = context
  · exact .inr hc.symm
  · rw [standingLock, standing_shown h, if_neg fun h ↦ hc h.2.1, List.append_nil] at hs
    exact .inl (Slot.standing_of_clear hs)

/-- The banners about the lock after a check stood before. -/
theorem standingLock_of_checked (h : b.Orderly) {ok : Bool} {context : String}
    (hs : (b.checked ok).standingLock context ≠ []) : b.standingLock context ≠ [] := by
  rw [standingLock, standing_checked h, if_neg fun hc ↦ absurd hc.2.2 (by decide),
    List.append_nil] at hs
  exact Slot.standing_of_clear hs

/-- The banner about rows after a check is the one that the check raised. -/
theorem standingRules_checked (h : b.Orderly) (ht : b.Truthful) (ok : Bool) :
    (b.checked ok).standingRules = ((b.checked ok).rules.current.map Prod.fst).toList := by
  have hclear : (b.rules.clear b.notes).2.standing Note.aclContext Note.invalidRules = [] := by
    have hrules := ht.rules
    rw [Slot.standing_clear]
    cases hcurrent : b.rules.current with
    | none =>
      rw [hcurrent] at hrules
      exact hrules
    | some shown =>
      rw [hcurrent] at hrules
      dsimp only
      rw [standingRules] at hrules
      rw [if_pos (h.rulesContext shown.1 shown.2 hcurrent), hrules]
      simp
  rw [standingRules, standing_checked h, current_checked, hclear, List.nil_append]
  cases ok <;> simp

/-- A step that takes no rows over unchecked keeps the banners true. -/
theorem Truthful.step (h : b.Orderly) (ht : b.Truthful) (hs : b.Step b') : b'.Truthful := by
  have hchecked : ∀ ok, (b.checked ok).Truthful := by
    intro ok
    refine ⟨standingRules_checked h ht ok, ?_, fun context hs ↦
      ht.lock context (standingLock_of_checked h hs)⟩
    intro hraised
    rw [Slot.isRaised, current_checked] at hraised
    cases ok with
    | true => cases hraised
    | false => rfl
  cases hs with
  | rest => exact ht
  | spoil => exact ⟨ht.rules, fun _ ↦ rfl, ht.lock⟩
  | check ok => exact hchecked ok
  | save =>
    have hc := hchecked true
    have ho := h.checked true
    refine ⟨?_, hc.valid, ?_⟩
    · rw [standingRules, standing_saved ho (by decide)]
      exact hc.rules
    · intro context hs
      rw [standingLock, standing_saved ho (by decide)] at hs
      exact hc.lock context hs

/-- Rows that are taken over keep the banners true when no banner about rows stands. -/
theorem Truthful.take (h : b.Orderly) (ht : b.Truthful) (hno : b.standingRules = [])
    (hs : b.Take b') : b'.Truthful := by
  have hcurrent : b.rules.current = none := by
    have hrules := ht.rules
    rw [hno] at hrules
    cases hc : b.rules.current with
    | none => rfl
    | some shown =>
      rw [hc] at hrules
      cases hrules
  have hraised : b.rules.isRaised ≠ true := by
    rw [Slot.isRaised, hcurrent]
    exact Bool.false_ne_true
  cases hs with
  | accept => exact ⟨ht.rules, fun hr ↦ absurd hr hraised, ht.lock⟩
  | display locked =>
    refine ⟨?_, fun hr ↦ absurd hr hraised, ?_⟩
    · rw [standingRules_shown h]
      exact ht.rules
    · intro context hs
      rcases standingLock_of_shown h hs with hs | hs
      · exact ht.lock context hs
      · exact hs

/-- Rows that are taken over count as valid, and the banners about rows stay. -/
theorem standingRules_take (h : b.Orderly) (hs : b.Take b') :
    b'.standingRules = b.standingRules ∧ b'.valid = true := by
  cases hs with
  | accept => exact ⟨rfl, rfl⟩
  | display locked => exact ⟨standingRules_shown h locked, rfl⟩

/-- No check changes the series of the banners. -/
theorem series_step (hs : b.Step b') : b'.series = b.series := by
  cases hs <;> rfl

/-- Rows that are taken over leave the series of the banners. -/
theorem series_take (hs : b.Take b') : b'.series = b.series := by
  cases hs <;> rfl

/-! ### A new editor -/

/-- The banners of an editor that was just made: its slots know of no banner. -/
def fresh (series : String) (notes : Board) : Banners Board :=
  ⟨series, Slot.empty, Slot.empty, true, notes⟩

/-- An editor that was just made takes no banner about a lock down. -/
theorem standingLock_take_of_fresh (h : b.Orderly) (hfresh : b.lock.current = none)
    (hs : b.Take b') {context : String} (hc : b.standingLock context ≠ []) :
    b'.standingLock context ≠ [] := by
  cases hs with
  | accept => exact hc
  | display locked =>
    have hclear : (b.lock.clear b.notes).2.standing context Note.listLocked =
        b.standingLock context := by
      apply Slot.standing_clear_of_ne
      rw [hfresh]
      nofun
    rw [standingLock, standing_shown h, hclear]
    exact fun hnil ↦ hc (List.append_eq_nil_iff.mp hnil).1

/-- The banners of an editor that was just made are in order on an orderly board. -/
theorem Orderly.fresh (h : b.Orderly) (series : String) : (fresh series b.notes).Orderly where
  sorted := h.sorted
  rulesUntimed := h.rulesUntimed
  lockUntimed := h.lockUntimed
  rulesContext := nofun
  lockContext := nofun

end Banners

end SeriesAcl
