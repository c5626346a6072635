import SeriesAcl.Editing.SeriesEditor
import SeriesAcl.Proofs.Access.Grouping
import SeriesAcl.Proofs.Admin.Records

/-!
# Loading and saving

What the two operations that reach the list of a series do on a store in memory. A save records the
rows when they pass the check and saves are not made to fail (`save_cases`). Loading leaves the
store as it is, and shows the list when it can be read (`load_cases`).
-/

namespace SeriesAcl

/-- A call on a desk is one on its node. -/
theorem Desk.call_eq {σ ν α : Type} (desk : Desk σ ν) (c : Call σ α) :
    desk.call c = ((c desk.node).1, { desk with node := (c desk.node).2 }) :=
  rfl

namespace SeriesEditor

/-- Two editors that show the same list in the same way, tags and notices aside. -/
structure Agree (e e' : SeriesEditor) : Prop where
  series : e'.series = e.series
  rows : e'.rows = e.rows
  selected : e'.selected = e.selected
  flags : e'.flags = e.flags
  isCustom : e'.isCustom = e.isCustom
  updateMode : e'.updateMode = e.updateMode
  org : e'.org = e.org

/-- Agreement goes on from one editor to the next. -/
theorem Agree.trans {e e' e'' : SeriesEditor} (h : e.Agree e') (h' : e'.Agree e'') :
    e.Agree e'' where
  series := h'.series.trans h.series
  rows := h'.rows.trans h.rows
  selected := h'.selected.trans h.selected
  flags := h'.flags.trans h.flags
  isCustom := h'.isCustom.trans h.isCustom
  updateMode := h'.updateMode.trans h.updateMode
  org := h'.org.trans h.org

/-! ### Replacing the rows -/

/-- The new rows are those of the entries. -/
@[simp]
theorem rows_replaceRows (e : SeriesEditor) (entries : List Entry) :
    (e.replaceRows entries).rows = Policy.group entries Policy.seriesField := by
  unfold replaceRows
  dsimp only
  split <;> rfl

/-- New rows leave the series. -/
@[simp]
theorem series_replaceRows (e : SeriesEditor) (entries : List Entry) :
    (e.replaceRows entries).series = e.series := by
  unfold replaceRows
  dsimp only
  split <;> rfl

/-- New rows leave the organization. -/
@[simp]
theorem org_replaceRows (e : SeriesEditor) (entries : List Entry) :
    (e.replaceRows entries).org = e.org := by
  unfold replaceRows
  dsimp only
  split <;> rfl

/-- New rows leave the update mode. -/
@[simp]
theorem updateMode_replaceRows (e : SeriesEditor) (entries : List Entry) :
    (e.replaceRows entries).updateMode = e.updateMode := by
  unfold replaceRows
  dsimp only
  split <;> rfl

/-- The rows are replaced alike in editors that agree. -/
theorem Agree.replaceRows {e e' : SeriesEditor} (h : e.Agree e') (entries : List Entry) :
    (e.replaceRows entries).Agree (e'.replaceRows entries) := by
  unfold SeriesEditor.replaceRows
  dsimp only
  rw [h.org]
  split
  · exact ⟨h.series, rfl, h.selected, h.flags, rfl, h.updateMode, rfl⟩
  · exact ⟨h.series, rfl, rfl, rfl, rfl, h.updateMode, rfl⟩

variable {σ ν : Type} [AdminNode σ] [NoteSink ν]

/-! ### Saving -/

/-- A save leaves the list as it is shown. -/
theorem agree_save (e : SeriesEditor) (reload overrideEvents : Bool) (desk : Desk σ ν) :
    e.Agree (e.save reload overrideEvents desk).editor := by
  unfold save
  dsimp only
  split
  · split
    · exact ⟨rfl, rfl, rfl, rfl, rfl, rfl, rfl⟩
    · cases reload <;> exact ⟨rfl, rfl, rfl, rfl, rfl, rfl, rfl⟩
  · exact ⟨rfl, rfl, rfl, rfl, rfl, rfl, rfl⟩

/-- A save sends the entries of the rows when they pass the check. -/
theorem save_eq (e : SeriesEditor) (reload overrideEvents : Bool) (desk : Desk σ ν) :
    ((e.save reload overrideEvents desk).answer, (e.save reload overrideEvents desk).desk.node) =
      if (Policy.check e.rows .relaxed).isValid then
        let sent := AdminNode.saveSeriesAccess e.series
          ⟨Policy.toEntries e.rows, e.updateMode.overrides overrideEvents⟩ desk.node
        (sent.1.map fun _ ↦ .saved, sent.2)
      else (.ok (.rejected (Policy.check e.rows .relaxed)), desk.node) := by
  unfold save Desk.call
  dsimp only
  split
  · split
    · next h => simp [h, Except.map]
    · next h => simp [h, Except.map]
  · rfl

/-- A save that reached the store. -/
structure Recorded (e : SeriesEditor) (overrideEvents : Bool) (s s' : Store) : Prop where
  valid : (Policy.check e.rows .relaxed).isValid = true
  allowed : .saveSeriesAccess ∉ s.failing
  node : s' = s.record e.series
    ⟨Policy.toEntries e.rows, e.updateMode.overrides overrideEvents⟩

/-- Editors that agree leave the same record. -/
theorem Recorded.congr {e e' : SeriesEditor} (h : e.Agree e') {overrideEvents : Bool}
    {s s' : Store} (hs : e.Recorded overrideEvents s s') : e'.Recorded overrideEvents s s' where
  valid := by rw [h.rows, hs.valid]
  allowed := hs.allowed
  node := by rw [h.series, h.rows, h.updateMode, hs.node]

/-- The series shows the recorded rows. -/
theorem Recorded.exists_block {e : SeriesEditor} {overrideEvents : Bool} {s s' : Store}
    (h : e.Recorded overrideEvents s s') :
    ∃ block, s'.access.get? e.series = some block ∧
      block.entries = .ok (Policy.toEntries e.rows) := by
  rw [h.node]
  exact s.exists_block_record _ _

/-- A save either reaches the store or leaves it as it is. -/
theorem save_cases (e : SeriesEditor) (reload overrideEvents : Bool) (desk : Desk Store ν) :
    let turn := e.save reload overrideEvents desk
    turn.answer = .ok .saved ∧ e.Recorded overrideEvents desk.node turn.desk.node ∨
      turn.answer ≠ .ok .saved ∧ turn.desk.node = desk.node ∧
        ((Policy.check e.rows .relaxed).isValid = false ∨
          .saveSeriesAccess ∈ desk.node.failing) := by
  have h := Prod.ext_iff.mp (e.save_eq reload overrideEvents desk)
  obtain ⟨hanswer, hnode⟩ := h
  dsimp only at hanswer hnode ⊢
  by_cases hv : (Policy.check e.rows .relaxed).isValid = true
  · rw [if_pos hv] at hanswer hnode
    have hsent : AdminNode.saveSeriesAccess (σ := Store) = Store.saveSeriesAccess := rfl
    rw [hsent, Store.saveSeriesAccess_eq] at hanswer hnode
    by_cases hf : .saveSeriesAccess ∈ desk.node.failing
    · rw [if_pos hf] at hanswer hnode
      exact .inr ⟨by rw [hanswer]; nofun, hnode, .inr hf⟩
    · rw [if_neg hf] at hanswer hnode
      exact .inl ⟨hanswer, hv, hf, hnode⟩
  · rw [if_neg hv] at hanswer hnode
    exact .inr ⟨by rw [hanswer]; nofun, hnode, .inl (Bool.eq_false_iff.mpr hv)⟩

/-! ### Switching -/

/-- The editor with the rows switched to a template, before they are saved. -/
def switched (e : SeriesEditor) (t : Template) : SeriesEditor :=
  { e with selected := some t }.replaceRows (Policy.switchEntries e.rows t e.org e.flags)

/-- A switch of the template leaves the series. -/
@[simp]
theorem series_switched (e : SeriesEditor) (t : Template) : (e.switched t).series = e.series :=
  series_replaceRows _ _

/-- A switch to an unknown template changes nothing. -/
theorem switchTemplate_eq_error (e : SeriesEditor) {id : Nat} (h : Template.byId? id = none)
    (overrideEvents : Bool) (desk : Desk σ ν) :
    e.switchTemplate id overrideEvents desk = ⟨.error (Error.unknownTemplateId id), e, desk⟩ := by
  unfold switchTemplate
  rw [h]

/-- A switch to a known template saves the switched rows. -/
theorem switchTemplate_eq (e : SeriesEditor) {id : Nat} {t : Template}
    (h : Template.byId? id = some t) (overrideEvents : Bool) (desk : Desk σ ν) :
    e.switchTemplate id overrideEvents desk = (e.switched t).save false overrideEvents desk := by
  unfold switchTemplate
  rw [h]
  rfl

/-- A managed list that can be read replaces the rows. -/
theorem applyManaged_eq (e : SeriesEditor) (id : Int) (desk : Desk Store ν) :
    e.applyManaged id desk =
      match (Store.managedAcl id desk.node).1 with
      | .error error => ⟨.error error, e, desk⟩
      | .ok managed => e.changeEntries managed.entries false desk := by
  have hnode : (Store.managedAcl id desk.node).2 = desk.node := by
    rw [Store.managedAcl_eq]
  have hcall : desk.call (AdminNode.managedAcl id) = ((Store.managedAcl id desk.node).1, desk) :=
    congrArg (fun s ↦ ((Store.managedAcl id desk.node).1, { desk with node := s })) hnode
  unfold applyManaged
  rw [hcall]
  cases (Store.managedAcl id desk.node).1 <;> rfl

/-! ### Loading -/

/-- The editor with the organization and the settings of the user, when the store names one. -/
def signedIn (e : SeriesEditor) (s : Store) : SeriesEditor :=
  if .currentUser ∈ s.failing then e
  else { e with org := s.user.homeOrg, updateMode := s.user.org.updateMode }

omit [NoteSink ν] in
private theorem call_answer {α : Type} (desk : Desk Store ν) (op : Operation) (answer : Store → α) :
    desk.call (Store.guarded op fun s ↦ (.ok (answer s), s)) =
      (if op ∈ desk.node.failing then .error (Error.operationFailed op.name)
        else .ok (answer desk.node), desk) := by
  rw [Desk.call_eq, Store.guarded_answer]

omit [NoteSink ν] in
private theorem loadPeople_eq (e : SeriesEditor) (desk : Desk Store ν) :
    ∃ e', e.loadPeople desk = (e', desk) ∧ (e.signedIn desk.node).Agree e' := by
  have huser : desk.call AdminNode.currentUser = _ := call_answer desk .currentUser Store.user
  have husers : desk.call AdminNode.directoryUsers = _ :=
    call_answer desk .directoryUsers Store.users
  unfold loadPeople signedIn
  simp only [huser, husers]
  refine ⟨_, rfl, ?_⟩
  split <;> split <;> exact ⟨rfl, rfl, rfl, rfl, rfl, rfl, rfl⟩

omit [NoteSink ν] in
private theorem loadActions_eq (e : SeriesEditor) (desk : Desk Store ν) :
    ∃ actions, e.loadActions desk = ({ e with actions := actions }, desk) := by
  have hlist : desk.call (AdminNode.resourceList Resource.aclActions) = _ :=
    call_answer desk .resourceList fun s ↦ (s.resources.get? Resource.aclActions).getD Dict.empty
  unfold loadActions
  rw [hlist]
  by_cases hf : .resourceList ∈ desk.node.failing
  · rw [if_pos hf]
    exact ⟨e.actions, rfl⟩
  · rw [if_neg hf]
    exact ⟨_, rfl⟩

omit [NoteSink ν] in
/-- A page of roles is fetched without a change to the store. -/
theorem reads_moreRoles (e : SeriesEditor) (search : Option String) (desk : Desk Store ν) :
    desk.node.Reads (e.moreRoles search desk).desk.node := by
  show desk.node.Reads (e.roles.more search desk.node).2.2
  unfold RoleDirectory.more
  split
  · exact .refl _
  · next query d _ =>
    have hreads := Store.reads_listRoles desk.node query
    split
    · next h =>
      have hnode : (Store.listRoles query desk.node).2 = _ := congrArg Prod.snd h
      rwa [hnode] at hreads
    · next h =>
      have hnode : (Store.listRoles query desk.node).2 = _ := congrArg Prod.snd h
      rwa [hnode] at hreads

omit [NoteSink ν] in
/-- The pickers have no say in the list. -/
theorem loadPickers_eq (e : SeriesEditor) (desk : Desk Store ν) :
    let turn := e.loadPickers desk
    turn.answer = .ok () ∧ e.Agree turn.editor ∧ turn.editor.locked = e.locked ∧
      desk.node.Reads turn.desk.node := by
  obtain ⟨actions, hactions⟩ := e.loadActions_eq desk
  unfold loadPickers
  rw [hactions]
  exact ⟨rfl, ⟨rfl, rfl, rfl, rfl, rfl, rfl, rfl⟩, rfl, reads_moreRoles _ none desk⟩

/-- The rows of a block are shown with its lock. -/
theorem showAccess_eq (e : SeriesEditor) (block : SeriesAccess) (entries : List Entry)
    (desk : Desk σ ν) :
    let shown := e.showAccess block entries desk
    (e.replaceRows entries).Agree shown.1 ∧ shown.1.locked = block.locked ∧
      shown.2.node = desk.node :=
  ⟨⟨rfl, rfl, rfl, rfl, rfl, rfl, rfl⟩, rfl, rfl⟩

/-- Loading leaves the store as it is. It shows the list that can be read, and otherwise keeps the
one that was shown. -/
theorem load_cases (e : SeriesEditor) (desk : Desk Store ν) :
    let turn := e.load desk
    desk.node.Reads turn.desk.node ∧
      ((∃ block entries, desk.node.Readable e.series block entries ∧ turn.answer = .ok () ∧
          ((e.signedIn desk.node).replaceRows entries).Agree turn.editor ∧
          turn.editor.locked = block.locked) ∨
        (¬∃ block entries, desk.node.Readable e.series block entries) ∧
          (∃ error, turn.answer = .error error) ∧ (e.signedIn desk.node).Agree turn.editor) := by
  obtain ⟨e', hpeople, hagree⟩ := e.loadPeople_eq desk
  have hseries : e'.series = e.series := by
    rw [hagree.series]
    unfold signedIn
    split <;> rfl
  have hcall : desk.call (AdminNode.seriesAccess e'.series) =
      ((Store.seriesAccess e.series desk.node).1,
        { desk with node := (Store.seriesAccess e.series desk.node).2 }) := by
    rw [hseries]
    rfl
  unfold load
  simp only [hpeople, hcall, Store.seriesAccess, Store.guarded]
  by_cases hf : .seriesAccess ∈ desk.node.failing
  · simp only [if_pos hf]
    exact ⟨.refl _, .inr ⟨fun ⟨_, _, h⟩ ↦ h.allowed hf, ⟨_, rfl⟩, hagree⟩⟩
  · simp only [if_neg hf]
    cases hblock : desk.node.access.get? e.series with
    | none =>
      refine ⟨.refl _, .inr ⟨?_, ⟨_, rfl⟩, hagree⟩⟩
      rintro ⟨_, _, h⟩
      cases hblock.symm.trans h.found
    | some block =>
      dsimp only
      cases hentries : block.entries with
      | error error =>
        refine ⟨.refl _, .inr ⟨?_, ⟨_, rfl⟩, hagree⟩⟩
        rintro ⟨_, _, h⟩
        obtain rfl := Option.some.inj (hblock.symm.trans h.found)
        cases hentries.symm.trans h.decoded
      | ok entries =>
        obtain ⟨hshown, hlocked, hnode⟩ := e'.showAccess_eq block entries desk
        obtain ⟨hok, hpick, hpicklock, hreads⟩ :=
          (e'.showAccess block entries desk).1.loadPickers_eq (e'.showAccess block entries desk).2
        rw [hnode] at hreads
        refine ⟨hreads, .inl ⟨block, entries, ⟨hf, hblock, hentries⟩, hok, ?_, ?_⟩⟩
        · exact ((hagree.replaceRows entries).trans hshown).trans hpick
        · exact hpicklock.trans hlocked

end SeriesEditor

end SeriesAcl
