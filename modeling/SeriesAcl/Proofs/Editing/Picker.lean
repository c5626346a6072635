import SeriesAcl.Notice.Board
import SeriesAcl.Proofs.Editing.Operations

/-!
# What the template picker shows

The picker shows the last classification that the editor made (`ShowsLast`). The operations that
replace the rows make one; those that edit rows, delete them or add them do not. So after a save the
picker reflects the stored list exactly when the last classification is that of the stored list
(`reflects_stored_iff`), which an operation on single rows can break (`not_reflects_deletePrivate`).
-/

namespace SeriesAcl

namespace Template

/-- A template has the id that it is found by. -/
theorem id_of_byId? {id : Nat} {t : Template} (h : byId? id = some t) : t.id = id := by
  unfold byId? at h
  split at h
  · next hc =>
    cases h
    exact hc.symm
  · simpa using List.find?_some h

end Template

namespace Classification

/-- A classification names a template of the catalog. -/
theorem isSome_byId?_classify {rows : List Policy} {org : Option String} {id : Nat} {flags : Flags}
    (h : classify rows org = .template id flags) : (Template.byId? id).isSome = true := by
  have hid : id ∈ (rules org).map Rule.id := by
    unfold classify at h
    split at h
    · next i row hrow =>
      obtain ⟨rule, hrule, hmatch⟩ := List.exists_of_findSome?_eq_some hrow
      obtain ⟨p, -, hp⟩ := Option.map_eq_some_iff.mp hmatch
      cases h
      exact List.mem_map.mpr ⟨rule, hrule, congrArg Prod.fst hp⟩
    · cases h
  simp only [rules, List.map_cons, List.map_nil, List.mem_cons, List.not_mem_nil, or_false] at hid
  rcases hid with rfl | rfl | rfl | rfl | rfl | rfl <;> decide

end Classification

/-- Whether an operation sets the flags, which changes the picker by hand. -/
def SeriesOp.setsFlags : SeriesOp → Bool
  | .setFlags _ => true
  | _ => false

/-- The list of a series, when it can be read. -/
def Store.listOf? (s : Store) (series : String) : Option (List Entry) :=
  if .seriesAccess ∈ s.failing then none
  else (s.access.get? series).bind fun block ↦ block.entries.toOption

private theorem Store.Readable.listOf?_eq {s : Store} {series : String} {block : SeriesAccess}
    {entries : List Entry} (h : s.Readable series block entries) :
    s.listOf? series = some entries := by
  rw [listOf?, if_neg h.allowed, h.found, Option.bind_some, h.decoded]
  rfl

private theorem Store.listOf?_eq_none {s : Store} {series : String}
    (h : ¬∃ block entries, s.Readable series block entries) : s.listOf? series = none := by
  rw [listOf?]
  split
  · rfl
  · next hf =>
    cases hb : s.access.get? series with
    | none => rfl
    | some block =>
      cases he : block.entries with
      | error error =>
        rw [Option.bind_some, he]
        rfl
      | ok entries => exact absurd ⟨block, entries, hf, hb, he⟩ h

namespace SeriesEditor

/-- The picker shows a classification: that it is custom, or else its template with its flags. -/
def Reflects (e : SeriesEditor) (c : Classification) : Prop :=
  e.isCustom = c.isCustom ∧ (c.isCustom = false → e.selected = c.template? ∧ e.flags = c.flags)

/-- The picker as the last classification leaves it. -/
def ShowsLast (e : SeriesEditor) : Option Classification → Prop
  | none => e.isCustom = false ∧ e.selected = none
  | some .custom => e.isCustom = true
  | some (.template id flags) =>
    e.isCustom = false ∧ e.selected = Template.byId? id ∧ e.flags = flags ∧
      (Template.byId? id).isSome = true

/-- The entries that an operation replaces the rows with. -/
def replacement? (e : SeriesEditor) (op : SeriesOp) (s : Store) : Option (List Entry) :=
  match op with
  | .load => s.listOf? e.series
  | .changeEntries entries _ => some entries
  | .switchTemplate id _ =>
    (Template.byId? id).map fun t ↦ Policy.switchEntries e.rows t e.org e.flags
  | .applyManaged id => (Store.managedAcl id s).1.toOption.map ManagedAcl.entries
  | _ => none

private theorem showsLast_make (series : String) (page : Nat) : (make series page).ShowsLast none :=
  ⟨rfl, rfl⟩

/-- The picker reflects a classification exactly when it was the last one. -/
theorem ShowsLast.reflects_iff {e : SeriesEditor} {last : Option Classification}
    (h : e.ShowsLast last) (rows : List Policy) (org : Option String) :
    e.Reflects (Classification.classify rows org) ↔
      last = some (Classification.classify rows org) := by
  have hsome : ∀ id flags, Classification.classify rows org = .template id flags →
      (Template.byId? id).isSome = true :=
    fun _ _ ↦ Classification.isSome_byId?_classify
  -- Only that its template exists is used of the classification, so ids can be compared.
  generalize Classification.classify rows org = c at hsome ⊢
  cases last with
  | none =>
    obtain ⟨hcustom, hselected⟩ := h
    constructor
    · rintro ⟨hc, ht⟩
      cases c with
      | custom => cases hcustom.symm.trans hc
      | template id flags =>
        have hnone : Template.byId? id = none := (ht rfl).1.symm.trans hselected
        have hid := hsome id flags rfl
        rw [hnone] at hid
        cases hid
    · nofun
  | some last =>
    cases last with
    | custom =>
      have hcustom : e.isCustom = true := h
      cases c with
      | custom => exact ⟨fun _ ↦ rfl, fun _ ↦ ⟨hcustom, nofun⟩⟩
      | template id flags =>
        refine ⟨?_, nofun⟩
        rintro ⟨hc, -⟩
        cases hcustom.symm.trans hc
    | template last lastFlags =>
      obtain ⟨hcustom, hselected, hflags, hlast⟩ := h
      cases c with
      | custom =>
        refine ⟨?_, nofun⟩
        rintro ⟨hc, -⟩
        cases hcustom.symm.trans hc
      | template id flags =>
        constructor
        · rintro ⟨-, ht⟩
          obtain ⟨ht, hf⟩ := ht rfl
          obtain ⟨t, hid⟩ := Option.isSome_iff_exists.mp hlast
          have hid' : Template.byId? id = some t := (ht.symm.trans hselected).trans hid
          rw [← Template.id_of_byId? hid, Template.id_of_byId? hid', ← hflags, hf]
          rfl
        · rintro ⟨⟩
          exact ⟨hcustom, fun _ ↦ ⟨hselected, hflags⟩⟩

/-- Two editors with one picker. -/
structure SamePicker (e e' : SeriesEditor) : Prop where
  selected : e'.selected = e.selected
  flags : e'.flags = e.flags
  isCustom : e'.isCustom = e.isCustom

private theorem SamePicker.trans {e e' e'' : SeriesEditor} (h : e.SamePicker e')
    (h' : e'.SamePicker e'') :
    e.SamePicker e'' :=
  ⟨h'.selected.trans h.selected, h'.flags.trans h.flags, h'.isCustom.trans h.isCustom⟩

private theorem Agree.samePicker {e e' : SeriesEditor} (h : e.Agree e') : e.SamePicker e' :=
  ⟨h.selected, h.flags, h.isCustom⟩

private theorem ShowsLast.congr {e e' : SeriesEditor} {last : Option Classification}
    (h : e.ShowsLast last) (hp : e.SamePicker e') : e'.ShowsLast last := by
  unfold ShowsLast at h ⊢
  rw [hp.selected, hp.flags, hp.isCustom]
  exact h

/-- Replaced rows are classified, and the picker shows the classification. -/
theorem showsLast_replaceRows (e : SeriesEditor) (entries : List Entry) :
    (e.replaceRows entries).ShowsLast
      (some (Classification.classify (Policy.group entries Policy.seriesField) e.org)) := by
  unfold replaceRows
  dsimp only
  cases hc : Classification.classify (Policy.group entries Policy.seriesField) e.org with
  | custom => exact rfl
  | template id flags =>
    exact ⟨rfl, rfl, rfl, Classification.isSome_byId?_classify hc⟩

/-- The editor shows the rows of some entries and their classification. -/
def ShowsEntries (e : SeriesEditor) (entries : List Entry) : Prop :=
  e.rows = Policy.group entries Policy.seriesField ∧
    e.ShowsLast (some (Classification.classify e.rows e.org))

/-- An editor that agrees with one whose rows were replaced shows the same entries. -/
theorem showsEntries_of_agree {e e' : SeriesEditor} {entries : List Entry}
    (h : (e.replaceRows entries).Agree e') : e'.ShowsEntries entries := by
  have hrows : e'.rows = Policy.group entries Policy.seriesField :=
    h.rows.trans (e.rows_replaceRows entries)
  refine ⟨hrows, ?_⟩
  rw [hrows, h.org, org_replaceRows]
  exact (e.showsLast_replaceRows entries).congr h.samePicker

private theorem samePicker_signedIn (e : SeriesEditor) (s : Store) :
    e.SamePicker (e.signedIn s) := by
  unfold signedIn
  split <;> exact ⟨rfl, rfl, rfl⟩

variable {ν : Type} [NoteSink ν]

private theorem SamePicker.save {e e' : SeriesEditor} (h : e.SamePicker e')
    (reload overrideEvents : Bool)
    (desk : Desk Store ν) : e.SamePicker (e'.save reload overrideEvents desk).editor :=
  h.trans (e'.agree_save reload overrideEvents desk).samePicker

private theorem showsEntries_changeEntries (e : SeriesEditor) (entries : List Entry)
    (loading : Bool)
    (desk : Desk Store ν) : (e.changeEntries entries loading desk).editor.ShowsEntries entries := by
  cases loading with
  | true =>
    apply showsEntries_of_agree (e := e)
    exact ⟨rfl, rfl, rfl, rfl, rfl, rfl, rfl⟩
  | false => exact showsEntries_of_agree (agree_save (e.replaceRows entries) false false desk)

/-- An operation shows the entries that it replaces the rows with; if it replaces none the picker
stays, unless the operation is to set the flags. -/
theorem perform_picker (e : SeriesEditor) (op : SeriesOp) (desk : Desk Store ν)
    (hflags : op.setsFlags = false) :
    match e.replacement? op desk.node with
    | some entries => (e.perform op desk).editor.ShowsEntries entries
    | none => e.SamePicker (e.perform op desk).editor := by
  cases op with
  | load =>
    rcases (e.load_cases desk).2 with ⟨block, entries, hread, -, hagree, -⟩ | ⟨hno, -, hagree⟩
    · rw [replacement?, hread.listOf?_eq]
      exact showsEntries_of_agree hagree
    · rw [replacement?, Store.listOf?_eq_none hno]
      exact (e.samePicker_signedIn desk.node).trans hagree.samePicker
  | changeEntries entries loading => exact e.showsEntries_changeEntries entries loading desk
  | switchTemplate id overrideEvents =>
    show match (Template.byId? id).map fun t ↦ Policy.switchEntries e.rows t e.org e.flags with
      | some entries => (e.switchTemplate id overrideEvents desk).editor.ShowsEntries entries
      | none => e.SamePicker (e.switchTemplate id overrideEvents desk).editor
    cases ht : Template.byId? id with
    | none =>
      rw [e.switchTemplate_eq_error ht]
      exact ⟨rfl, rfl, rfl⟩
    | some t =>
      rw [e.switchTemplate_eq ht]
      exact showsEntries_of_agree ((e.switched t).agree_save false overrideEvents desk)
  | applyManaged id =>
    show match (Store.managedAcl id desk.node).1.toOption.map ManagedAcl.entries with
      | some entries => (e.applyManaged id desk).editor.ShowsEntries entries
      | none => e.SamePicker (e.applyManaged id desk).editor
    rw [applyManaged_eq]
    cases (Store.managedAcl id desk.node).1 with
    | error error => exact ⟨rfl, rfl, rfl⟩
    | ok managed => exact e.showsEntries_changeEntries managed.entries false desk
  | setFlags flags => cases hflags
  | addRow => exact ⟨rfl, rfl, rfl⟩
  | editRows edit => exact ⟨rfl, rfl, rfl⟩
  | deleteRow target =>
    have hp : e.SamePicker (e.editRows fun rows ↦ Policy.removeLast rows target) := ⟨rfl, rfl, rfl⟩
    exact hp.save true false desk
  | addTag tag =>
    show e.SamePicker (e.addTag tag desk).editor
    apply SamePicker.save
    exact ⟨rfl, rfl, rfl⟩
  | removeTag tag =>
    show e.SamePicker (e.removeTag tag desk).editor
    apply SamePicker.save
    exact ⟨rfl, rfl, rfl⟩
  | rowChanged role =>
    show e.SamePicker (e.rowChanged role desk).editor
    unfold rowChanged
    split
    · exact (e.agree_save true false desk).samePicker
    · exact ⟨rfl, rfl, rfl⟩
  | reloadTags => exact ⟨rfl, rfl, rfl⟩
  | save reload overrideEvents => exact (e.agree_save reload overrideEvents desk).samePicker
  | moreRoles search => exact ⟨rfl, rfl, rfl⟩

end SeriesEditor

/-- An editor at its desk, with the last classification that it made. -/
structure Session (ν : Type) where
  editor : SeriesEditor
  desk : Desk Store ν
  last : Option Classification

namespace Session

/-- An editor before anything is loaded. -/
def start {ν : Type} (series : String) (page : Nat) (desk : Desk Store ν) : Session ν :=
  ⟨SeriesEditor.make series page, desk, none⟩

variable {ν : Type} [NoteSink ν]

/-- The turn of the editor. -/
def turn (x : Session ν) (op : SeriesOp) : Turn SeriesEditor Store ν (Option SaveOutcome) :=
  x.editor.perform op x.desk

/-- The session after an operation; replaced rows are classified. -/
def step (x : Session ν) (op : SeriesOp) : Session ν where
  editor := (x.turn op).editor
  desk := (x.turn op).desk
  last := match x.editor.replacement? op x.desk.node with
    | some _ => some (Classification.classify (x.turn op).editor.rows (x.turn op).editor.org)
    | none => x.last

/-- The session after some operations. -/
def run (x : Session ν) (ops : List SeriesOp) : Session ν :=
  ops.foldl step x

private theorem last_step {x : Session ν} {op : SeriesOp} {entries : List Entry}
    (h : x.editor.replacement? op x.desk.node = some entries) :
    (x.step op).last =
      some (Classification.classify (x.step op).editor.rows (x.step op).editor.org) := by
  simp only [step, h]

/-- An operation leaves the picker at the last classification. -/
theorem showsLast_step {x : Session ν} (h : x.editor.ShowsLast x.last) {op : SeriesOp}
    (hflags : op.setsFlags = false) : (x.step op).editor.ShowsLast (x.step op).last := by
  have hpicker := x.editor.perform_picker op x.desk hflags
  simp only [step]
  cases hr : x.editor.replacement? op x.desk.node with
  | some entries =>
    rw [hr] at hpicker
    exact hpicker.2
  | none =>
    rw [hr] at hpicker
    exact h.congr hpicker

private theorem showsLast_run {x : Session ν} (h : x.editor.ShowsLast x.last) {ops : List SeriesOp}
    (hflags : ∀ op ∈ ops, op.setsFlags = false) :
    (x.run ops).editor.ShowsLast (x.run ops).last := by
  induction ops generalizing x with
  | nil => exact h
  | cons op rest ih =>
    apply ih (showsLast_step h (hflags op List.mem_cons_self))
    exact fun o ho ↦ hflags o (List.mem_cons_of_mem _ ho)

/-- After a save the picker reflects the stored list exactly when the last classification was that
of the stored list, and so it does after every operation that replaces the rows. -/
theorem reflects_stored_iff (series : String) (page : Nat) (desk : Desk Store ν)
    (ops : List SeriesOp) (op : SeriesOp) (hflags : ∀ o ∈ op :: ops, o.setsFlags = false)
    (hsaved : (((start series page desk).run ops).turn op).answer = .ok (some .saved)) :
    let x := (start series page desk).run ops
    let saved := x.step op
    ∃ block entries, saved.desk.node.access.get? saved.editor.series = some block ∧
      block.entries = .ok entries ∧
      let c := Classification.classify (Policy.group entries Policy.seriesField) saved.editor.org
      (saved.editor.Reflects c ↔ saved.last = some c) ∧
        (x.editor.replacement? op x.desk.node ≠ none → saved.editor.Reflects c) := by
  intro x saved
  have hshows : x.editor.ShowsLast x.last :=
    showsLast_run (SeriesEditor.showsLast_make series page)
      fun o ho ↦ hflags o (List.mem_cons_of_mem _ ho)
  have hshows' : saved.editor.ShowsLast saved.last :=
    showsLast_step hshows (hflags op List.mem_cons_self)
  rcases x.editor.perform_cases op x.desk with ⟨-, hrecorded⟩ | ⟨hno, -⟩
  · obtain ⟨block, hblock, hentries⟩ := hrecorded.exists_block
    refine ⟨block, _, hblock, hentries, hshows'.reflects_iff _ _, ?_⟩
    intro hreplaced
    rw [hshows'.reflects_iff]
    have hpicker := x.editor.perform_picker op x.desk (hflags op List.mem_cons_self)
    cases hr : x.editor.replacement? op x.desk.node with
    | none => exact absurd hr hreplaced
    | some entries =>
      rw [hr] at hpicker
      have hrows : saved.editor.rows = Policy.group entries Policy.seriesField := hpicker.1
      have htidied : Policy.Tidied Policy.seriesField saved.editor.rows := by
        rw [hrows]
        exact Policy.tidied_group entries
      have hgroup : Policy.group (Policy.toEntries saved.editor.rows) Policy.seriesField =
          saved.editor.rows := Policy.group_toEntries_of_isValid htidied hrecorded.valid
      show saved.last = some (Classification.classify
        (Policy.group (Policy.toEntries saved.editor.rows) Policy.seriesField) saved.editor.org)
      rw [hgroup]
      exact last_step hr
  · exact absurd hsaved hno

/-- The desk of a private series. -/
def privateDesk : Desk Store Board :=
  ⟨Store.privateStore, Board.empty⟩

/-- The row that makes the series private is deleted. -/
def deletePrivate : SeriesOp :=
  .deleteRow ⟨some Role.privateMember, false, false, Policy.seriesField, [Action.castView]⟩

/-- The picker goes on to show a template whose row was deleted. -/
theorem not_reflects_deletePrivate :
    ¬∀ (series : String) (page : Nat) (desk : Desk Store Board) (ops : List SeriesOp)
      (op : SeriesOp), (∀ o ∈ op :: ops, o.setsFlags = false) →
      (((start series page desk).run ops).turn op).answer = .ok (some .saved) →
      ∀ block entries, let saved := ((start series page desk).run ops).step op
        saved.desk.node.access.get? saved.editor.series = some block →
        block.entries = .ok entries →
        saved.editor.Reflects
          (Classification.classify (Policy.group entries Policy.seriesField) saved.editor.org) := by
  intro h
  have hcustom := (h "s" 100 privateDesk [.load] deletePrivate (by decide) rfl _ _ rfl
    (SeriesAccess.entries_written
      [Entry.allowed "ROLE_A" Action.read, Entry.allowed "ROLE_A" Action.write] false
      Dict.empty)).1
  revert hcustom
  decide

/-- The deletion of that row is saved, and the criterion says when the picker follows it. -/
theorem reflects_stored_iff_deletePrivate :
    let x := (start "s" 100 privateDesk).run [.load]
    let saved := x.step deletePrivate
    (∀ o ∈ [deletePrivate, .load], o.setsFlags = false) ∧
      (x.turn deletePrivate).answer = .ok (some .saved) ∧
      ∃ block entries, saved.desk.node.access.get? saved.editor.series = some block ∧
        block.entries = .ok entries ∧
        let c := Classification.classify (Policy.group entries Policy.seriesField)
          saved.editor.org
        (saved.editor.Reflects c ↔ saved.last = some c) ∧
          (x.editor.replacement? deletePrivate x.desk.node ≠ none → saved.editor.Reflects c) :=
  ⟨by decide, rfl,
    reflects_stored_iff "s" 100 privateDesk [.load] deletePrivate (by decide) rfl⟩

end Session

end SeriesAcl
