import SeriesAcl.Proofs.Editing.FailedSections
import SeriesAcl.Proofs.Notice.Keeping

/-!
# What failed operations leave

The operations of the permissions tab that fail, on a store in memory and in any state that an
editor can come to (`Reached`). A switch to an unknown template and a managed list that cannot be
read change nothing at all. A load that fails has told the editor who the user is and who is in the
directory. A save that fails, or is rejected, has checked the rows (`failed_turns`).
-/

namespace SeriesAcl

/-! ### Notes of a key -/

namespace Logbook

variable {ν : Type} {key : String} {book : Logbook ν}

/-- What a record has more than another one posts no note with a key. -/
def PostsNone (key : String) (book book' : Logbook ν) : Prop :=
  ∃ later, book'.events = book.events ++ later ∧
    ∀ id n, .added id n ∈ later → n.key ≠ key

variable [NoteSink ν]

private theorem postsNone_clear (slot : Slot) : PostsNone key book (slot.clear book).2 := by
  unfold Slot.clear
  split
  · exact ⟨[], (List.append_nil _).symm, nofun⟩
  · next id context _ =>
    refine ⟨[.removed id context], rfl, fun added n h ↦ ?_⟩
    cases List.mem_singleton.mp h

private theorem PostsNone.add {book' : Logbook ν} (h : PostsNone key book book') {n : Note}
    (hn : n.key ≠ key) : PostsNone key book (NoteSink.add n book').2 := by
  obtain ⟨later, hlater, hkeys⟩ := h
  refine ⟨later ++ [.added (NoteSink.add n book'.sink).1 n], ?_, fun id m hm ↦ ?_⟩
  · rw [← List.append_assoc, ← hlater]
    rfl
  · rcases List.mem_append.mp hm with hm | hm
    · exact hkeys id m hm
    · obtain ⟨rfl, rfl⟩ := NoteEvent.added.inj (List.mem_singleton.mp hm)
      exact hn

/-- A slot posts no other notes than its own. -/
theorem postsNone_toggle (slot : Slot) (condition : Bool) {n : Note} (hn : n.key ≠ key) :
    PostsNone key book (slot.toggle condition n book).2 := by
  cases condition with
  | true => exact (postsNone_clear slot).add hn
  | false => exact postsNone_clear slot

end Logbook

namespace SeriesEditor

section States

variable {σ ν : Type} [AdminNode σ] [NoteSink ν] {e : SeriesEditor}

/-! ### The states of an editor -/

/-- The states that an editor can come to. The desk may be any other one at every operation, and the
role directory, which others can reach too, may have become any other one in between. -/
inductive Reached (σ ν : Type) [AdminNode σ] [NoteSink ν] : SeriesEditor → Prop
  | make (series : String) (rolePage : Nat) : Reached σ ν (make series rolePage)
  | perform {e : SeriesEditor} (h : Reached σ ν e) (op : SeriesOp) (desk : Desk σ ν) :
    Reached σ ν (e.perform op desk).editor
  | withRoles {e : SeriesEditor} (h : Reached σ ν e) (roles : RoleDirectory) :
    Reached σ ν { e with roles := roles }

/-- New rows leave whether a request is pending. -/
@[simp]
theorem pending_replaceRows (e : SeriesEditor) (entries : List Entry) :
    (e.replaceRows entries).pending = e.pending := by
  unfold replaceRows
  dsimp only
  split <;> rfl

/-- A save has no request pending when it ends. -/
theorem pending_save (e : SeriesEditor) (h : e.pending = false) (reload overrideEvents : Bool)
    (desk : Desk σ ν) : (e.save reload overrideEvents desk).editor.pending = false := by
  unfold save
  dsimp only
  split
  · split
    · rfl
    · cases reload <;> rfl
  · exact h

private theorem pending_changeEntries (e : SeriesEditor) (h : e.pending = false)
    (entries : List Entry) (loading : Bool) (desk : Desk σ ν) :
    (e.changeEntries entries loading desk).editor.pending = false := by
  rw [← e.pending_replaceRows entries] at h
  cases loading with
  | true => exact h
  | false => exact pending_save _ h false false desk

private theorem pending_load (e : SeriesEditor) (desk : Desk σ ν) :
    (e.load desk).editor.pending = e.pending := by
  have hintroduced : (e.introduced desk.node).pending = e.pending := by
    obtain ⟨org, mode, users, hknown⟩ := e.exists_introduced_eq desk.node
    rw [hknown]
  refine Eq.trans ?_ hintroduced
  exact load_congr SeriesEditor.pending (fun _ _ _ ↦ rfl)
    (fun e _ entries (_ : Desk σ ν) ↦ e.pending_replaceRows entries) e desk

private theorem pending_perform (h : e.pending = false) (op : SeriesOp) (desk : Desk σ ν) :
    (e.perform op desk).editor.pending = false := by
  cases op with
  | load => exact (e.pending_load desk).trans h
  | changeEntries entries loading => exact e.pending_changeEntries h entries loading desk
  | switchTemplate id overrideEvents =>
    show (e.switchTemplate id overrideEvents desk).editor.pending = false
    cases ht : Template.byId? id with
    | none =>
      rw [e.switchTemplate_eq_error ht]
      exact h
    | some t =>
      rw [e.switchTemplate_eq ht]
      apply pending_save
      exact (pending_replaceRows _ _).trans h
  | applyManaged id =>
    show (e.applyManaged id desk).editor.pending = false
    unfold applyManaged
    split
    · exact h
    · exact e.pending_changeEntries h _ false _
  | rowChanged role =>
    show (e.rowChanged role desk).editor.pending = false
    unfold rowChanged
    split
    · exact e.pending_save h true false desk
    · exact h
  | deleteRow target =>
    apply pending_save
    exact h
  | addTag tag =>
    apply pending_save
    exact h
  | removeTag tag =>
    apply pending_save
    exact h
  | save reload overrideEvents => exact e.pending_save h reload overrideEvents desk
  | setFlags flags => exact h
  | addRow => exact h
  | editRows edit => exact h
  | reloadTags => exact h
  | moreRoles search => exact h

/-- No request is pending between the operations of an editor. -/
theorem Reached.pending (h : Reached σ ν e) : e.pending = false := by
  induction h with
  | make series rolePage => rfl
  | perform _ op desk ih => exact pending_perform ih op desk
  | withRoles _ roles ih => exact ih

end States

/-! ### Failures on a store -/

section Failures

variable {ν : Type} [NoteSink ν]

/-- A managed list that may not be read, or that there is none of, changes nothing. -/
theorem applyManaged_eq_error (e : SeriesEditor) {id : Int} {desk : Desk Store ν}
    (h : .managedAcl ∈ desk.node.failing ∨ ∀ m ∈ desk.node.managed, m.id ≠ id) :
    ∃ error, e.applyManaged id desk = ⟨.error error, e, desk⟩ := by
  rw [applyManaged_eq, Store.managedAcl_eq]
  by_cases hf : .managedAcl ∈ desk.node.failing
  · rw [if_pos hf]
    exact ⟨_, rfl⟩
  · have hnone : desk.node.managed.find? (fun m ↦ m.id == id) = none := by
      rw [List.find?_eq_none]
      intro m hm hid
      exact h.resolve_left hf m hm (beq_iff_eq.mp hid)
    rw [if_neg hf, hnone]
    exact ⟨_, rfl⟩

/-- A load of a list that cannot be read changes only what the editor knows about people. -/
theorem load_eq_error (e : SeriesEditor) {desk : Desk Store ν}
    (h : ¬∃ block entries, desk.node.Readable e.series block entries) :
    ∃ error org mode users, e.load desk =
      ⟨.error error, { e with org := org, updateMode := mode, users := users }, desk⟩ := by
  obtain ⟨org, mode, users, hknown⟩ := e.exists_introduced_eq desk.node
  have hanswer : AdminNode.seriesAccess (σ := Store) = Store.seriesAccess := rfl
  rw [load_eq, Desk.call_eq, readAccess_eq, hanswer, Store.seriesAccess_eq, hknown]
  by_cases hf : .seriesAccess ∈ desk.node.failing
  · simp only [if_pos hf]
    exact ⟨_, org, mode, users, rfl⟩
  · simp only [if_neg hf]
    cases hblock : desk.node.access.get? e.series with
    | none => exact ⟨_, org, mode, users, rfl⟩
    | some block =>
      cases hentries : block.entries with
      | error error =>
        simp only [hentries]
        exact ⟨_, org, mode, users, rfl⟩
      | ok entries => exact absurd ⟨block, entries, hf, hblock, hentries⟩ h

/-- A save that is rejected or fails has checked the rows, and changed nothing else when no request
was pending before. -/
theorem save_eq_of_ne_saved {e : SeriesEditor} (he : e.pending = false)
    {reload overrideEvents : Bool} {desk : Desk Store ν}
    (h : (e.save reload overrideEvents desk).answer ≠ .ok .saved) :
    let check := Policy.check e.rows .relaxed
    let toggled := e.rulesNotice.toggle (!check.rulesValid)
      (Note.warning Note.invalidRules Note.aclContext) desk.notes
    (e.save reload overrideEvents desk).editor =
        { e with valid := check.rulesValid, rulesNotice := toggled.1 } ∧
      (e.save reload overrideEvents desk).desk = { desk with notes := toggled.2 } := by
  have hsave : AdminNode.saveSeriesAccess (σ := Store) = Store.saveSeriesAccess := rfl
  revert h
  unfold save
  dsimp only
  rw [Desk.call_eq, hsave, Store.saveSeriesAccess_eq]
  split
  · by_cases hf : .saveSeriesAccess ∈ desk.node.failing
    · rw [if_pos hf]
      refine fun _ ↦ ⟨?_, rfl⟩
      rw [he]
    · rw [if_neg hf]
      exact fun h ↦ absurd rfl h
  · exact fun _ ↦ ⟨rfl, rfl⟩

end Failures

/-- In any state that an editor can come to, at any desk with a store in memory: a switch to an
unknown template and a managed list that cannot be read change nothing; a load of a list that cannot
be read changes only what the editor knows about people, and no note; a save that is rejected or
fails changes at most whether the rows are valid and the note about them, posts no message about a
save and has no request pending. -/
theorem failed_turns {ν : Type} [NoteSink ν] {e : SeriesEditor} (he : Reached Store (Logbook ν) e)
    (desk : Desk Store (Logbook ν)) :
    (∀ id overrideEvents, Template.byId? id = none →
        e.switchTemplate id overrideEvents desk = ⟨.error (Error.unknownTemplateId id), e, desk⟩) ∧
      (∀ id, (.managedAcl ∈ desk.node.failing ∨ ∀ m ∈ desk.node.managed, m.id ≠ id) →
        ∃ error, e.applyManaged id desk = ⟨.error error, e, desk⟩) ∧
      ((¬∃ block entries, desk.node.Readable e.series block entries) →
        ∃ error org mode users, e.load desk =
          ⟨.error error, { e with org := org, updateMode := mode, users := users }, desk⟩) ∧
      ∀ reload overrideEvents,
        let turn := e.save reload overrideEvents desk
        turn.answer ≠ .ok .saved →
          (∃ valid slot, turn.editor = { e with valid := valid, rulesNotice := slot }) ∧
            turn.editor.pending = false ∧ turn.desk.node = desk.node ∧
            Logbook.PostsNone Note.listSaved desk.notes turn.desk.notes := by
  refine ⟨fun id overrideEvents h ↦ e.switchTemplate_eq_error h overrideEvents desk,
    fun id h ↦ e.applyManaged_eq_error h, fun h ↦ e.load_eq_error h, ?_⟩
  intro reload overrideEvents turn h
  obtain ⟨heditor, hdesk⟩ := save_eq_of_ne_saved he.pending h
  refine ⟨⟨_, _, heditor⟩, e.pending_save he.pending reload overrideEvents desk, ?_, ?_⟩
  · rw [hdesk]
  · rw [hdesk]
    exact Logbook.postsNone_toggle _ _ (by decide)

/-- A node on which no access list can be read or saved. -/
def inaccessibleNode : Store :=
  { Store.empty with failing := [.seriesAccess, .saveSeriesAccess, .managedAcl] }

/-- Nothing is loaded or saved at this node, and an editor of one row keeps what it shows. -/
theorem failed_turns_inaccessibleNode :
    let desk : Desk Store (Logbook Board) := ⟨inaccessibleNode, Logbook.fresh Board.empty⟩
    let e := ((make "a" 100).perform (.addTag ⟨"a", "User A", "ROLE_A"⟩) desk).editor
    let turn := e.save true false desk
    e.switchTemplate 9 false desk = ⟨.error (Error.unknownTemplateId 9), e, desk⟩ ∧
      (∃ error, e.applyManaged 1 desk = ⟨.error error, e, desk⟩) ∧
      (∃ error org mode users, e.load desk =
        ⟨.error error, { e with org := org, updateMode := mode, users := users }, desk⟩) ∧
      turn.answer ≠ .ok .saved ∧
      (∃ valid slot, turn.editor = { e with valid := valid, rulesNotice := slot }) ∧
      turn.editor.pending = false ∧ turn.desk.node = desk.node ∧
      Logbook.PostsNone Note.listSaved desk.notes turn.desk.notes := by
  intro desk e turn
  have he : Reached Store (Logbook Board) e := (Reached.make "a" 100).perform _ desk
  have hanswer : turn.answer ≠ .ok .saved := nofun
  obtain ⟨hswitch, hmanaged, hload, hsave⟩ := failed_turns he desk
  refine ⟨hswitch 9 false (by decide), hmanaged 1 (.inl (by decide)), hload ?_, hanswer,
    hsave true false hanswer⟩
  rintro ⟨block, entries, hread⟩
  exact hread.allowed (by decide)

end SeriesEditor

end SeriesAcl
