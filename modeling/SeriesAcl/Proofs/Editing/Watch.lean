import SeriesAcl.Proofs.Editing.Loading

/-!
# Watched nodes

A node of any kind with a record of the access lists that it was asked to save, whatever it made of
them. An editor works on a watched node as it does on the node itself (`load_unwatched`,
`save_unwatched`); only a save enters the record (`saves_load`, `saves_save`).
-/

namespace SeriesAcl

/-- A node and the saves of access lists that were sent to it, in their order. -/
structure Watched (σ : Type) where
  node : σ
  saves : List (String × AccessUpdate)

namespace Watched

variable {σ α : Type}

/-- A node to which no list has been sent yet. -/
def fresh (node : σ) : Watched σ := ⟨node, []⟩

/-- A call that sends no list. -/
def pass (c : Call σ α) : Call (Watched σ) α := fun w ↦
  let (answer, node) := c w.node
  (answer, { w with node := node })

/-- A save is recorded, also when it fails. -/
def save [AdminNode σ] (series : String) (update : AccessUpdate) : Call (Watched σ) Unit := fun w ↦
  let (answer, node) := AdminNode.saveSeriesAccess series update w.node
  (answer, ⟨node, w.saves ++ [(series, update)]⟩)

/-- A node that is watched answers as the node does. -/
instance [AdminNode σ] : AdminNode (Watched σ) where
  currentUser := pass AdminNode.currentUser
  seriesAccess series := pass (AdminNode.seriesAccess series)
  saveSeriesAccess := save
  managedAcl id := pass (AdminNode.managedAcl id)
  listRoles query := pass (AdminNode.listRoles query)
  resourceList name := pass (AdminNode.resourceList name)
  directoryUsers := pass AdminNode.directoryUsers
  seriesMetadata series := pass (AdminNode.seriesMetadata series)
  saveSeriesMetadata series catalog := pass (AdminNode.saveSeriesMetadata series catalog)
  seriesTheme series := pass (AdminNode.seriesTheme series)
  saveSeriesTheme series theme := pass (AdminNode.saveSeriesTheme series theme)
  deleteSeriesTheme series := pass (AdminNode.deleteSeriesTheme series)
  feeds := pass AdminNode.feeds

end Watched

/-- The desk with the node that is watched. -/
def Desk.unwatched {σ ν : Type} (desk : Desk (Watched σ) ν) : Desk σ ν :=
  ⟨desk.node.node, desk.notes⟩

/-- What is left of a turn when nobody watches. -/
def Turn.unwatched {ε σ ν α : Type} (turn : Turn ε (Watched σ) ν α) : Turn ε σ ν α :=
  ⟨turn.answer, turn.editor, turn.desk.unwatched⟩

namespace SeriesEditor

variable {σ ν : Type} [AdminNode σ]

/-! ### The node that is watched -/

private theorem more_unwatched (roles : RoleDirectory) (search : Option String) (node : Watched σ) :
    roles.more search node.node =
      ((roles.more search node).1, (roles.more search node).2.1,
        (roles.more search node).2.2.node) := by
  have hlist : ∀ query, AdminNode.listRoles query node =
      ((AdminNode.listRoles query node.node).1,
        { node with node := (AdminNode.listRoles query node.node).2 }) := fun _ ↦ rfl
  unfold RoleDirectory.more
  rcases roles.start search with ⟨_ | query, d⟩
  · rfl
  · dsimp only
    rw [hlist]
    rcases AdminNode.listRoles query node.node with ⟨_ | _, _⟩ <;> rfl

private theorem loadPickers_unwatched (e : SeriesEditor) (desk : Desk (Watched σ) ν) :
    e.loadPickers desk.unwatched = (e.loadPickers desk).unwatched := by
  unfold loadPickers loadActions moreRoles
  rw [Desk.call_eq, Desk.call_eq]
  have hactions : AdminNode.resourceList Resource.aclActions desk.node =
      ((AdminNode.resourceList Resource.aclActions desk.node.node).1,
        { desk.node with
          node := (AdminNode.resourceList Resource.aclActions desk.node.node).2 }) := rfl
  rw [hactions]
  unfold Desk.unwatched Turn.unwatched
  dsimp only
  rcases AdminNode.resourceList Resource.aclActions desk.node.node with ⟨_ | _, node⟩
  all_goals
    dsimp only
    rw [more_unwatched e.roles none ⟨node, desk.node.saves⟩]
    rfl

variable [NoteSink ν]

/-- A load on a watched node is one on the node. -/
theorem load_unwatched (e : SeriesEditor) (desk : Desk (Watched σ) ν) :
    e.load desk.unwatched = (e.load desk).unwatched := by
  rw [load_eq, load_eq, Desk.call_eq, Desk.call_eq]
  have hread : AdminNode.readAccess e.series desk.node =
      ((AdminNode.readAccess e.series desk.node.node).1,
        { desk.node with node := (AdminNode.readAccess e.series desk.node.node).2 }) := rfl
  rw [hread]
  unfold Desk.unwatched
  dsimp only
  rcases AdminNode.readAccess e.series desk.node.node with ⟨_ | ⟨_ | block⟩, node⟩
  · rfl
  · exact loadPickers_unwatched _ ⟨⟨node, desk.node.saves⟩, desk.notes⟩
  · dsimp only
    cases block.entries with
    | error error => rfl
    | ok entries =>
      let shown := (e.introduced desk.node).showAccess block entries
        (⟨⟨node, desk.node.saves⟩, desk.notes⟩ : Desk (Watched σ) ν)
      exact loadPickers_unwatched shown.1 shown.2

/-- A save on a watched node is one on the node. -/
theorem save_unwatched (e : SeriesEditor) (reload overrideEvents : Bool)
    (desk : Desk (Watched σ) ν) :
    e.save reload overrideEvents desk.unwatched =
      (e.save reload overrideEvents desk).unwatched := by
  have hsave : ∀ series update, AdminNode.saveSeriesAccess series update desk.node =
      ((AdminNode.saveSeriesAccess series update desk.node.node).1,
        ⟨(AdminNode.saveSeriesAccess series update desk.node.node).2,
          desk.node.saves ++ [(series, update)]⟩) := fun _ _ ↦ rfl
  unfold save Desk.call Desk.unwatched Turn.unwatched
  dsimp only
  rw [hsave]
  split
  · dsimp only
    split <;> rfl
  · rfl

/-- A switch of the template is the same on a node that is watched. -/
theorem switchTemplate_unwatched (e : SeriesEditor) (id : Nat) (overrideEvents : Bool)
    (desk : Desk (Watched σ) ν) :
    e.switchTemplate id overrideEvents desk.unwatched =
      (e.switchTemplate id overrideEvents desk).unwatched := by
  cases ht : Template.byId? id with
  | none => rw [e.switchTemplate_eq_error ht, e.switchTemplate_eq_error ht]; rfl
  | some t =>
    rw [e.switchTemplate_eq ht, e.switchTemplate_eq ht]
    exact save_unwatched _ false overrideEvents desk

/-! ### The record -/

omit [NoteSink ν] in
private theorem saves_loadPickers (e : SeriesEditor) (desk : Desk (Watched σ) ν) :
    (e.loadPickers desk).desk.node.saves = desk.node.saves := by
  have hmore : ∀ (roles : RoleDirectory) (node : Watched σ),
      (roles.more none node).2.2.saves = node.saves := by
    intro roles node
    unfold RoleDirectory.more
    rcases roles.start none with ⟨_ | query, d⟩
    · rfl
    · rcases hlist : AdminNode.listRoles query node with ⟨_ | _, node'⟩
      all_goals
        simp only [hlist]
        exact congrArg (Watched.saves ∘ Prod.snd) hlist.symm
  have hactions : (e.loadActions desk).2.node.saves = desk.node.saves := by
    unfold loadActions
    rw [Desk.call_eq]
    cases (AdminNode.resourceList Resource.aclActions desk.node).1 <;> rfl
  exact (hmore _ _).trans hactions

/-- A load sends no list. -/
theorem saves_load (e : SeriesEditor) (desk : Desk (Watched σ) ν) :
    (e.load desk).desk.node.saves = desk.node.saves := by
  rw [load_eq, Desk.call_eq]
  rcases (AdminNode.readAccess e.series desk.node).1 with _ | ⟨_ | block⟩
  · rfl
  · exact saves_loadPickers _ _
  · dsimp only
    cases block.entries with
    | error error => rfl
    | ok entries => exact saves_loadPickers _ _

/-- A save sends the entries of the rows when they pass the check. -/
theorem saves_save (e : SeriesEditor) (reload overrideEvents : Bool) (desk : Desk (Watched σ) ν) :
    (e.save reload overrideEvents desk).desk.node.saves =
      if (Policy.check e.rows .relaxed).isValid then
        desk.node.saves ++
          [(e.series, ⟨Policy.toEntries e.rows, e.updateMode.overrides overrideEvents⟩)]
      else desk.node.saves := by
  have h := congrArg (Watched.saves ∘ Prod.snd) (e.save_eq reload overrideEvents desk)
  dsimp only [Function.comp] at h
  rw [h]
  split <;> rfl

end SeriesEditor

end SeriesAcl
