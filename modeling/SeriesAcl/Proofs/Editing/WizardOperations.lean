import SeriesAcl.Editing.Wizard
import SeriesAcl.Proofs.Access.Expansion

/-!
# The operations of the wizard

All that can be asked of the access step of the wizard, as one type. Between two operations node and
notes may change as they like, so each operation comes with the desk that it finds. Whatever was
asked, the template that is selected is the one that is remembered, and building its rows again
never fails (`remembered_performAll`).
-/

namespace SeriesAcl

/-- What can be asked of the access step. Rows are edited by any function. -/
inductive WizardOp where
  | reset
  | selectTemplate (id : Nat)
  | setFlags (flags : Flags)
  | applyTemplate (preset : Bool)
  | addRow
  | editRows (edit : List Policy → List Policy)
  | deleteRow (target : Policy)
  | addTag (tag : UserTag)
  | removeTag (tag : UserTag)
  | isValid
  | showWarnings
  | moreRoles (search : Option String)
  | reloadRoles
  | loadActions
  | loadUsers
  | load

namespace Wizard

section Perform

variable {σ ν : Type}

/-- The turn of an operation that changes the wizard or fails. -/
def turnTo (w : Wizard) (answer : Except Error Wizard) (desk : Desk σ ν) : Turn Wizard σ ν Unit :=
  match answer with
  | .ok w' => ⟨.ok (), w', desk⟩
  | .error error => ⟨.error error, w, desk⟩

variable [AdminNode σ] [NoteSink ν]

/-- Carry out an operation. -/
def perform (w : Wizard) (op : WizardOp) (desk : Desk σ ν) : Turn Wizard σ ν Unit :=
  match op with
  | .reset => ⟨.ok (), w.reset, desk⟩
  | .selectTemplate id => w.turnTo (w.selectTemplate id) desk
  | .setFlags flags => ⟨.ok (), w.setFlags flags, desk⟩
  | .applyTemplate preset => w.turnTo (w.applyTemplate preset) desk
  | .addRow => ⟨.ok (), w.addRow, desk⟩
  | .editRows edit => ⟨.ok (), w.editRows edit, desk⟩
  | .deleteRow target => ⟨.ok (), w.deleteRow target, desk⟩
  | .addTag tag => ⟨.ok (), w.addTag tag, desk⟩
  | .removeTag tag => ⟨.ok (), w.removeTag tag, desk⟩
  | .isValid =>
    let (_, w, notes) := w.isValid desk.notes
    ⟨.ok (), w, { desk with notes := notes }⟩
  | .showWarnings =>
    let (w, notes) := w.showWarnings desk.notes
    ⟨.ok (), w, { desk with notes := notes }⟩
  | .moreRoles search =>
    let (answer, w, node) := w.moreRoles search desk.node
    ⟨answer.map fun _ ↦ (), w, { desk with node := node }⟩
  | .reloadRoles =>
    let (answer, w, node) := w.reloadRoles desk.node
    ⟨answer.map fun _ ↦ (), w, { desk with node := node }⟩
  | .loadActions =>
    let (answer, w, node) := w.loadActions desk.node
    ⟨answer, w, { desk with node := node }⟩
  | .loadUsers =>
    let (answer, w, node) := w.loadUsers desk.node
    ⟨answer, w, { desk with node := node }⟩
  | .load =>
    let (w, node) := w.load desk.node
    ⟨.ok (), w, { desk with node := node }⟩

/-- A wizard after some operations, each on the desk that it finds. -/
def performAll (w : Wizard) (ops : List (WizardOp × Desk σ ν)) : Wizard :=
  ops.foldl (fun w op ↦ (w.perform op.1 op.2).editor) w

end Perform

/-- Two wizards that stand for the same list, the directory and the warnings aside. -/
structure Agree (w w' : Wizard) : Prop where
  user : w'.user = w.user
  rows : w'.rows = w.rows
  selected : w'.selected = w.selected
  remembered : w'.remembered = w.remembered
  flags : w'.flags = w.flags
  tags : w'.tags = w.tags

private theorem Agree.trans {w w' w'' : Wizard} (h : w.Agree w') (h' : w'.Agree w'') :
    w.Agree w'' where
  user := h'.user.trans h.user
  rows := h'.rows.trans h.rows
  selected := h'.selected.trans h.selected
  remembered := h'.remembered.trans h.remembered
  flags := h'.flags.trans h.flags
  tags := h'.tags.trans h.tags

/-! ### Operations without a say in the list -/

section Reading

variable {σ : Type} [AdminNode σ]

/-- The users that are offered make no difference to the list. -/
theorem agree_loadUsers (w : Wizard) (node : σ) : w.Agree (w.loadUsers node).2.1 := by
  unfold loadUsers
  split <;> exact ⟨rfl, rfl, rfl, rfl, rfl, rfl⟩

/-- The actions that are offered make no difference to the list. -/
theorem agree_loadActions (w : Wizard) (node : σ) : w.Agree (w.loadActions node).2.1 := by
  unfold loadActions
  split <;> exact ⟨rfl, rfl, rfl, rfl, rfl, rfl⟩

/-- The roles that are offered make no difference to the list. -/
theorem agree_moreRoles (w : Wizard) (search : Option String) (node : σ) :
    w.Agree (w.moreRoles search node).2.1 :=
  ⟨rfl, rfl, rfl, rfl, rfl, rfl⟩

/-- Loading what is offered makes no difference to the list. -/
theorem agree_load (w : Wizard) (node : σ) : w.Agree (w.load node).1 :=
  ((w.agree_loadUsers node).trans (agree_loadActions _ _)).trans (agree_moreRoles _ none _)

end Reading

/-! ### The selected template -/

/-- The wizard of a user, whose selected template is the one that is remembered. -/
structure Remembers (user : User) (w : Wizard) : Prop where
  user : w.user = user
  remembered : w.remembered = w.selected.map Template.id
  known : ∀ t, w.selected = some t → t ∈ Template.custom :: Template.catalog

namespace Remembers

variable {user : User} {w : Wizard}

private theorem congr (h : w.Remembers user) {w' : Wizard} (ha : w.Agree w') :
    w'.Remembers user where
  user := ha.user.trans h.user
  remembered := by rw [ha.remembered, ha.selected, h.remembered]
  known := by rw [ha.selected]; exact h.known

/-- Building the rows keeps what is selected. -/
theorem applySelected (h : w.Remembers user) : w.applySelected.Remembers user := by
  unfold Wizard.applySelected
  split
  · exact h
  · next t ht => exact ⟨h.user, by rw [ht]; rfl, h.known⟩

private theorem reset (h : w.Remembers user) : w.reset.Remembers user := by
  apply applySelected
  refine ⟨h.user, rfl, ?_⟩
  intro t ht
  obtain ⟨key, -, hkey⟩ := Option.bind_eq_some_iff.mp ht
  exact Template.mem_of_byKey? hkey

/-- The remembered template is looked up again. -/
theorem applyTemplate_of_known {id : Nat} {t : Template} (hr : w.remembered = some id)
    (ht : Template.byId? id = some t) :
    w.applyTemplate false = .ok { w with selected := some t }.applySelected := by
  simp only [Wizard.applyTemplate, hr, ht]

/-- Building the rows never fails, whether or not the template is looked up again. -/
theorem applyTemplate_eq (h : w.Remembers user) (preset : Bool) :
    w.applyTemplate preset = .ok w.applySelected := by
  cases preset with
  | true => rfl
  | false =>
    have hremembered := h.remembered
    cases hs : w.selected with
    | none =>
      rw [hs] at hremembered
      simp only [Wizard.applyTemplate, hremembered, Option.map_none]
    | some t =>
      have hself : { w with selected := some t } = w := by rw [← hs]
      rw [hs] at hremembered
      rw [applyTemplate_of_known hremembered (Template.byId?_of_mem (h.known t hs)), hself]

private theorem selectTemplate (h : w.Remembers user) {id : Nat} {w' : Wizard}
    (hs : w.selectTemplate id = .ok w') : w'.Remembers user := by
  unfold Wizard.selectTemplate at hs
  split at hs
  · cases hs
  · next t ht =>
    cases hs
    refine ⟨h.user, rfl, ?_⟩
    intro t' ht'
    cases ht'
    exact Template.mem_of_byId? ht

variable {σ ν : Type} [AdminNode σ] [NoteSink ν]

/-- Every operation keeps what the wizard remembers. -/
theorem perform (h : w.Remembers user) (op : WizardOp) (desk : Desk σ ν) :
    (w.perform op desk).editor.Remembers user := by
  cases op with
  | reset => exact h.reset
  | selectTemplate id =>
    rw [Wizard.perform]
    cases hs : w.selectTemplate id with
    | error error => exact h
    | ok w' => exact h.selectTemplate hs
  | applyTemplate preset =>
    rw [Wizard.perform, h.applyTemplate_eq]
    exact h.applySelected
  | setFlags flags => exact ⟨h.user, h.remembered, h.known⟩
  | addRow => exact ⟨h.user, h.remembered, h.known⟩
  | editRows edit => exact ⟨h.user, h.remembered, h.known⟩
  | deleteRow target => exact ⟨h.user, h.remembered, h.known⟩
  | addTag tag => exact ⟨h.user, h.remembered, h.known⟩
  | removeTag tag => exact ⟨h.user, h.remembered, h.known⟩
  | isValid => exact ⟨h.user, h.remembered, h.known⟩
  | showWarnings => exact ⟨h.user, h.remembered, h.known⟩
  | moreRoles search => exact h.congr (w.agree_moreRoles search desk.node)
  | reloadRoles => exact ⟨h.user, h.remembered, h.known⟩
  | loadActions => exact h.congr (w.agree_loadActions desk.node)
  | loadUsers => exact h.congr (w.agree_loadUsers desk.node)
  | load => exact h.congr (w.agree_load desk.node)

/-- Every run keeps what the wizard remembers. -/
theorem performAll (h : w.Remembers user) (ops : List (WizardOp × Desk σ ν)) :
    (w.performAll ops).Remembers user := by
  induction ops generalizing w with
  | nil => exact h
  | cons op rest ih => exact ih (h.perform op.1 op.2)

end Remembers

/-- A new wizard remembers its user. -/
theorem remembers_make (user : User) (rolePage : Nat) : (make user rolePage).Remembers user :=
  Remembers.reset ⟨rfl, rfl, nofun⟩

/-- After any run the remembered template is the selected one. So it makes no difference whether the
template is looked up again, and building its rows never fails. -/
theorem remembered_performAll {σ ν : Type} [AdminNode σ] [NoteSink ν] (user : User)
    (rolePage : Nat) (ops : List (WizardOp × Desk σ ν)) :
    let w := (make user rolePage).performAll ops
    w.remembered = w.selected.map Template.id ∧
      (∀ preset, w.applyTemplate preset = .ok w.applySelected) ∧
      ∀ preset (desk : Desk σ ν),
        w.perform (.applyTemplate preset) desk = ⟨.ok (), w.applySelected, desk⟩ := by
  intro w
  have h : w.Remembers user := (remembers_make user rolePage).performAll ops
  refine ⟨h.remembered, h.applyTemplate_eq, ?_⟩
  intro preset desk
  rw [perform, h.applyTemplate_eq]
  rfl

end Wizard

end SeriesAcl
