import SeriesAcl.Proofs.Editing.Turns

/-!
# Loading from any node

What loading does on a node of any kind. The user and the user directory are asked for first, and
then the access of the series (`AdminNode.readAccess`). Whatever they answer, what follows is
decided by that one answer (`load_eq`): a list that can be read is shown, and an answer without a
block is passed over.
-/

namespace SeriesAcl

namespace AdminNode

variable {σ : Type} [AdminNode σ]

/-- What a load asks before it shows a list: the user and the directory, whose answers it can do
without, and then the access of the series. -/
def readAccess (series : String) : Call σ AccessEnvelope := fun node ↦
  let (_, node) := AdminNode.currentUser node
  let (_, node) := AdminNode.directoryUsers node
  AdminNode.seriesAccess series node

/-- The answer about the access of a series holds a list that can be read. -/
def ListRead (series : String) (node : σ) : Prop :=
  ∃ block entries, (readAccess series node).1 = .ok ⟨some block⟩ ∧ block.entries = .ok entries

/-- The answer about the access of a series has no access block. -/
def BlockMissing (series : String) (node : σ) : Prop :=
  (readAccess series node).1 = .ok ⟨none⟩

end AdminNode

namespace SeriesEditor

/-- The editor with the organization and the settings of the user, when the node names one. -/
def knowing (e : SeriesEditor) (user : Except Error User) : SeriesEditor :=
  match user with
  | .ok u => { e with org := u.homeOrg, updateMode := u.org.updateMode }
  | .error _ => e

variable {σ ν : Type} [AdminNode σ]

/-- The editor with what a node says about the user and the user directory. -/
def introduced (e : SeriesEditor) (node : σ) : SeriesEditor :=
  { e.knowing (AdminNode.currentUser node).1 with
    users := (AdminNode.directoryUsers (AdminNode.currentUser node).2).1.toOption.getD [] }

private theorem loadPeople_fst (e : SeriesEditor) (desk : Desk σ ν) :
    (e.loadPeople desk).1 = e.introduced desk.node := by
  unfold loadPeople introduced knowing Desk.call
  dsimp only
  cases (AdminNode.currentUser desk.node).1 <;>
    cases (AdminNode.directoryUsers (AdminNode.currentUser desk.node).2).1 <;> rfl

/-- Nothing else of the editor changes. -/
theorem exists_introduced_eq (e : SeriesEditor) (node : σ) :
    ∃ org mode users,
      e.introduced node = { e with org := org, updateMode := mode, users := users } := by
  unfold introduced knowing
  cases (AdminNode.currentUser node).1 <;> exact ⟨_, _, _, rfl⟩

/-- An editor that is told the user keeps its series. -/
@[simp]
theorem series_introduced (e : SeriesEditor) (node : σ) :
    (e.introduced node).series = e.series := by
  obtain ⟨org, mode, users, h⟩ := e.exists_introduced_eq node
  rw [h]

/-- An editor that is told the user shows what it showed. -/
theorem agree_introduced (e : SeriesEditor) (node : σ) :
    (e.knowing (AdminNode.currentUser node).1).Agree (e.introduced node) :=
  ⟨rfl, rfl, rfl, rfl, rfl, rfl, rfl⟩

/-- The pickers take the labels of the actions and a page of roles, and nothing else. -/
theorem exists_loadPickers_eq (e : SeriesEditor) (desk : Desk σ ν) :
    ∃ actions roles node, e.loadPickers desk =
      ⟨.ok (), { e with actions := actions, roles := roles }, { desk with node := node }⟩ := by
  unfold loadPickers loadActions moreRoles Desk.call
  dsimp only
  cases (AdminNode.resourceList Resource.aclActions desk.node).1 <;> exact ⟨_, _, _, rfl⟩

variable [NoteSink ν]

/-- A load does what the answer about the access of the series says. -/
theorem load_eq (e : SeriesEditor) (desk : Desk σ ν) :
    e.load desk =
      match desk.call (AdminNode.readAccess e.series) with
      | (.error error, desk') => ⟨.error error, e.introduced desk.node, desk'⟩
      | (.ok ⟨none⟩, desk') => (e.introduced desk.node).loadPickers desk'
      | (.ok ⟨some block⟩, desk') =>
        match block.entries with
        | .error error => ⟨.error error, e.introduced desk.node, desk'⟩
        | .ok entries =>
          ((e.introduced desk.node).showAccess block entries desk').1.loadPickers
            ((e.introduced desk.node).showAccess block entries desk').2 := by
  unfold load
  rw [← e.loadPeople_fst desk]
  have hseries : (e.loadPeople desk).1.series = e.series := by
    rw [loadPeople_fst, series_introduced]
  have hcall : (e.loadPeople desk).2.call (AdminNode.seriesAccess (e.loadPeople desk).1.series) =
      desk.call (AdminNode.readAccess e.series) := by
    rw [hseries]
    rfl
  dsimp only
  rewrite [hcall]
  rcases desk.call (AdminNode.readAccess e.series) with ⟨_ | ⟨_ | block⟩, desk'⟩ <;> rfl

/-- A list that can be read is shown, with its lock. -/
theorem load_of_block (e : SeriesEditor) (desk : Desk σ ν) {block : SeriesAccess}
    {entries : List Entry}
    (hread : (AdminNode.readAccess e.series desk.node).1 = .ok ⟨some block⟩)
    (hentries : block.entries = .ok entries) :
    (e.load desk).answer = .ok () ∧
      ((e.knowing (AdminNode.currentUser desk.node).1).replaceRows entries).Agree
        (e.load desk).editor ∧
      (e.load desk).editor.locked = block.locked := by
  rw [load_eq, Desk.call_eq, hread]
  dsimp only
  rw [hentries]
  dsimp only
  obtain ⟨actions, roles, node, hpick⟩ := exists_loadPickers_eq
    ((e.introduced desk.node).showAccess block entries
      { desk with node := (AdminNode.readAccess e.series desk.node).2 }).1
    ((e.introduced desk.node).showAccess block entries
      { desk with node := (AdminNode.readAccess e.series desk.node).2 }).2
  rw [hpick]
  refine ⟨rfl, ?_, rfl⟩
  exact ((e.agree_introduced desk.node).replaceRows entries).trans
    ⟨rfl, rfl, rfl, rfl, rfl, rfl, rfl⟩

end SeriesEditor

end SeriesAcl
