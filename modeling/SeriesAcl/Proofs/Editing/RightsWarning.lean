import SeriesAcl.Admin.Store
import SeriesAcl.Proofs.Editing.WizardOperations
import SeriesAcl.Proofs.Notice.BoardSlots

/-!
# The warning about missing rights

The wizard warns while no row of its list grants both reading and writing. Every check clears the
warning or ensures it, but the slot only knows that it raised a warning, not whether its user has
dismissed it since. So after any run a check leaves the right warnings on the board exactly when
some row grants both or the warning was not dismissed (`inStep_check_run_iff`).
-/

namespace SeriesAcl

/-- What the slots of a wizard are about. -/
inductive WizardSlot where
  | rights
  | rules
  | missing
  deriving DecidableEq

/-- A wizard has three slots. -/
instance : Fintype WizardSlot := ⟨{.rights, .rules, .missing}, fun i ↦ by cases i <;> decide⟩

namespace Wizard

/-- The slots of a wizard. -/
def slots (w : Wizard) : WizardSlot → Slot
  | .rights => w.rightsNotice
  | .rules => w.rulesNotice
  | .missing => w.missingNotice

/-- The notes that the slots of a wizard raise. -/
def label : WizardSlot → Note
  | .rights => Note.warning Note.missingReadWrite Note.aclContext
  | .rules => Note.warning Note.invalidRules Note.aclContext
  | .missing => Note.warning Note.missingRules Note.aclContext

/-- Some row grants both reading and writing. -/
def HasRights (w : Wizard) : Prop :=
  ∃ p ∈ w.rows, p.read = true ∧ p.write = true

/-- Decided by a search through the rows. -/
instance (w : Wizard) : Decidable w.HasRights :=
  inferInstanceAs (Decidable (∃ p ∈ w.rows, p.read = true ∧ p.write = true))

private theorem hasRights_check (w : Wizard) :
    (Policy.check w.rows .strict).hasRights = decide w.HasRights := by
  rw [Bool.eq_iff_iff, decide_eq_true_iff]
  simp [Policy.check, HasRights, List.any_eq_true]

/-! ### Operations -/

/-- A template that is applied leaves the slots. -/
@[simp]
theorem slots_applySelected (w : Wizard) : w.applySelected.slots = w.slots := by
  unfold applySelected
  split <;> rfl

private theorem slots_make (user : User) (rolePage : Nat) :
    (make user rolePage).slots = fun _ ↦ Slot.empty := by
  rw [make, reset, slots_applySelected]
  funext i
  cases i <;> rfl

section Perform

variable {σ ν : Type} [AdminNode σ]

private theorem slots_loadUsers (w : Wizard) (node : σ) :
    (w.loadUsers node).2.1.slots = w.slots := by
  unfold loadUsers
  split <;> rfl

private theorem slots_loadActions (w : Wizard) (node : σ) :
    (w.loadActions node).2.1.slots = w.slots := by
  unfold loadActions
  split <;> rfl

variable [NoteSink ν]

/-- What a check asks of the slot about rights. -/
def rightsOp (w : Wizard) : SlotOp :=
  if w.HasRights then .clear else .ensure (label .rights)

private theorem isValid_notice (w : Wizard) (notes : ν) :
    ((w.isValid notes).2.1.rightsNotice, (w.isValid notes).2.2) =
      w.rightsOp.run w.rightsNotice notes := by
  have hrights := w.hasRights_check
  unfold isValid rightsOp
  dsimp only
  by_cases h : w.HasRights
  · rw [decide_eq_true h] at hrights
    rw [hrights, if_pos h]
    rfl
  · rw [decide_eq_false h] at hrights
    rw [hrights, if_neg h]
    rfl

/-- A check only asks the slot about rights. -/
theorem perform_isValid (w : Wizard) (desk : Desk σ ν) :
    let turn := w.perform .isValid desk
    turn.editor.rows = w.rows ∧
      turn.editor.slots =
        Function.update w.slots .rights (w.rightsOp.run w.rightsNotice desk.notes).1 ∧
      turn.desk.notes = (w.rightsOp.run w.rightsNotice desk.notes).2 := by
  have hnotice := w.isValid_notice desk.notes
  refine ⟨rfl, ?_, congrArg Prod.snd hnotice⟩
  funext i
  cases i with
  | rights => exact congrArg Prod.fst hnotice
  | rules => rfl
  | missing => rfl

/-- The other slots are only asked to show the warnings. -/
theorem perform_of_ne {op : WizardOp} (hcheck : op ≠ .isValid) (hshow : op ≠ .showWarnings)
    (w : Wizard) (desk : Desk σ ν) :
    (w.perform op desk).editor.slots = w.slots ∧ (w.perform op desk).desk.notes = desk.notes := by
  cases op with
  | isValid => exact absurd rfl hcheck
  | showWarnings => exact absurd rfl hshow
  | reset => exact ⟨slots_applySelected _, rfl⟩
  | selectTemplate id =>
    rw [perform, selectTemplate]
    split <;> exact ⟨rfl, rfl⟩
  | applyTemplate preset =>
    rw [perform]
    unfold applyTemplate
    split
    · split
      · exact ⟨rfl, rfl⟩
      · exact ⟨slots_applySelected _, rfl⟩
    · exact ⟨slots_applySelected _, rfl⟩
  | loadActions => exact ⟨w.slots_loadActions desk.node, rfl⟩
  | loadUsers => exact ⟨w.slots_loadUsers desk.node, rfl⟩
  | load => exact ⟨(slots_loadActions _ _).trans (w.slots_loadUsers desk.node), rfl⟩
  | setFlags flags => exact ⟨rfl, rfl⟩
  | addRow => exact ⟨rfl, rfl⟩
  | editRows edit => exact ⟨rfl, rfl⟩
  | deleteRow target => exact ⟨rfl, rfl⟩
  | addTag tag => exact ⟨rfl, rfl⟩
  | removeTag tag => exact ⟨rfl, rfl⟩
  | moreRoles search => exact ⟨rfl, rfl⟩
  | reloadRoles => exact ⟨rfl, rfl⟩

end Perform

end Wizard

/-! ### Sessions -/

/-- A wizard and its desk, and whether its user has dismissed the warning about rights since it was
raised. -/
structure WizardSession (σ : Type) where
  wizard : Wizard
  desk : Desk σ Board
  dismissed : Bool

/-- A step of a run: of the wizard, of its user, who dismisses a banner, of the clock, or of the
node on its own. -/
inductive WizardEvent (σ : Type) where
  | ask (op : WizardOp)
  | dismiss (id : NoteId) (context : String)
  | wait (milliseconds : Nat)
  | node (change : σ → σ)

namespace WizardSession

variable {σ : Type}

/-- A new wizard on an empty board. -/
def make (user : User) (rolePage : Nat) (node : σ) : WizardSession σ :=
  ⟨Wizard.make user rolePage, ⟨node, Board.empty⟩, false⟩

/-- Whether an id is that of a warning about rights which stands in a context. -/
def isWarning (x : WizardSession σ) (id : NoteId) (context : String) : Bool :=
  (x.desk.notes.posted context).any fun p ↦ p.id == id && p.note.key == Note.missingReadWrite

/-- A session after a step. A check that finds the rights forgets about the warning. -/
def step [AdminNode σ] (x : WizardSession σ) : WizardEvent σ → WizardSession σ
  | .ask op =>
    let turn := x.wizard.perform op x.desk
    ⟨turn.editor, turn.desk,
      match op with
      | .isValid => x.dismissed && !decide x.wizard.HasRights
      | _ => x.dismissed⟩
  | .dismiss id context =>
    { x with
      desk := { x.desk with notes := (x.desk.notes.remove id context).2 }
      dismissed := x.dismissed || x.isWarning id context }
  | .wait milliseconds =>
    { x with desk := { x.desk with notes := x.desk.notes.advance milliseconds } }
  | .node change => { x with desk := { x.desk with node := change x.desk.node } }

/-- The warnings about rights that are shown. -/
def warnings (x : WizardSession σ) : List Note :=
  (x.desk.notes.active Note.aclContext).filter fun n ↦ n.key == Note.missingReadWrite

/-- There is at most one warning about rights, and there is one exactly when no row grants both
reading and writing. -/
def InStep (x : WizardSession σ) : Prop :=
  x.warnings.length ≤ 1 ∧ (x.warnings ≠ [] ↔ ¬x.wizard.HasRights)

/-- A session shows what slots that share a board show. A raised slot about rights has lost its note
exactly if the warning was dismissed. -/
structure Follows (x : WizardSession σ) (s : SharedSlots WizardSlot Board) : Prop where
  slots : s.slots = x.wizard.slots
  notes : s.notes = x.desk.notes
  sound : ∃ standing, s.Sound standing
  labelled : s.Labelled Wizard.label
  direct : s.direct = []
  dismissed : x.dismissed = ((s.slots .rights).isRaised && s.dismissed .rights)

namespace Follows

variable {x : WizardSession σ} {s : SharedSlots WizardSlot Board}

/-- The warnings that stand are what the slot about rights shows. -/
theorem filter_standing (h : x.Follows s) {standing : List (NoteId × Note)}
    (hsound : s.Sound standing) :
    standing.filter (fun p ↦ p.2.key == Note.missingReadWrite) = s.shown .rights := by
  apply hsound.filter_eq_shown h.labelled (p := fun n ↦ n.key == Note.missingReadWrite)
  · rw [h.direct]
    nofun
  · intro j
    cases j <;> decide

private theorem warnings_eq (h : x.Follows s) :
    x.warnings =
      if (s.slots .rights).isRaised && !x.dismissed then [Wizard.label .rights] else [] := by
  obtain ⟨standing, hsound⟩ := h.sound
  have hkeeps : s.notes.Keeps standing := hsound.keeps
  have hcontext : (s.shown .rights).filter (fun p ↦ p.2.context == Note.aclContext) =
      s.shown .rights := by
    rw [List.filter_eq_self]
    intro p hp
    have hlabel : p.2 = Wizard.label .rights := h.labelled _ _ (SharedSlots.mem_shown.mp hp).1
    rw [hlabel]
    exact beq_self_eq_true _
  have hwarnings : x.warnings = (s.shown .rights).map Prod.snd := by
    rw [← hcontext, ← h.filter_standing hsound, List.filter_comm, warnings, ← h.notes,
      hkeeps.active_eq, List.filter_map]
    rfl
  rw [hwarnings, hsound.map_shown h.labelled, h.dismissed]
  cases (s.slots .rights).isRaised <;> cases s.dismissed .rights <;> rfl

/-- The warning that the user dismisses is the one that the slot shows. -/
theorem isWarning_eq (h : x.Follows s) (id : NoteId) (context : String) :
    x.isWarning id context = (s.shown .rights).any fun p ↦ !spared id context p := by
  obtain ⟨standing, hsound⟩ := h.sound
  have hkeeps : s.notes.Keeps standing := hsound.keeps
  rw [isWarning, ← h.notes, hkeeps.posted, ← h.filter_standing hsound, List.any_map,
    List.any_filter, List.any_filter]
  congr 1
  funext p
  simp [Board.sticky, spared, Bool.and_comm, Bool.and_left_comm]

private theorem dismiss (h : x.Follows s) (id : NoteId) (context : String) [AdminNode σ] :
    (x.step (.dismiss id context)).Follows (s.remove id context) := by
  obtain ⟨standing, hsound⟩ := h.sound
  refine ⟨h.slots, ?_, ⟨_, hsound.remove id context⟩, h.labelled, ?_, ?_⟩
  · show (NoteSink.remove id context s.notes).2 = (NoteSink.remove id context x.desk.notes).2
    rw [h.notes]
  · show s.direct.filter _ = []
    rw [h.direct]
    rfl
  · show (x.dismissed || x.isWarning id context) = ((s.slots .rights).isRaised &&
      (s.dismissed .rights || (s.latest .rights).any fun p ↦ !spared id context p))
    rw [h.isWarning_eq, h.dismissed, SharedSlots.shown, List.any_filter]
    cases s.latest .rights <;> cases (s.slots .rights).isRaised <;>
      cases s.dismissed .rights <;> simp

private theorem congr (h : x.Follows s) {y : WizardSession σ}
    (hslots : y.wizard.slots = x.wizard.slots)
    (hnotes : y.desk.notes = x.desk.notes) (hdismissed : y.dismissed = x.dismissed) :
    y.Follows s :=
  ⟨h.slots.trans hslots.symm, h.notes.trans hnotes.symm, h.sound, h.labelled, h.direct,
    hdismissed.trans h.dismissed⟩

/-- A session follows its slots when one of them is asked to clear or to raise its label. -/
theorem ask (h : x.Follows s) {i : WizardSlot} {op : SlotOp}
    (hop : ∀ n ∈ op.note?, n = Wizard.label i) {y : WizardSession σ}
    (hslots : y.wizard.slots =
      Function.update x.wizard.slots i (op.run (x.wizard.slots i) x.desk.notes).1)
    (hnotes : y.desk.notes = (op.run (x.wizard.slots i) x.desk.notes).2)
    (hdismissed : y.dismissed =
      (((s.ask i op).slots .rights).isRaised && (s.ask i op).dismissed .rights)) :
    y.Follows (s.ask i op) := by
  obtain ⟨standing, hsound⟩ := h.sound
  refine ⟨?_, ?_, hsound.ask i ?_, h.labelled.ask i hop, ?_, hdismissed⟩
  · rw [SharedSlots.slots_ask, h.slots, h.notes, hslots]
  · rw [SharedSlots.notes_ask, h.slots, h.notes, hnotes]
  · intro n hn
    rw [hop n hn]
    cases i <;> exact rfl
  · rw [SharedSlots.direct_ask, h.direct]

/-- Another slot has no say in the warning about rights. -/
theorem toggle (h : x.Follows s) {i : WizardSlot} (hi : WizardSlot.rights ≠ i) (condition : Bool)
    {y : WizardSession σ}
    (hslots : y.wizard.slots = Function.update x.wizard.slots i
      ((x.wizard.slots i).toggle condition (Wizard.label i) x.desk.notes).1)
    (hnotes : y.desk.notes =
      ((x.wizard.slots i).toggle condition (Wizard.label i) x.desk.notes).2)
    (hdismissed : y.dismissed = x.dismissed) :
    y.Follows (s.ask i (.toggle condition (Wizard.label i))) := by
  have hop : ∀ n ∈ (SlotOp.toggle condition (Wizard.label i)).note?, n = Wizard.label i :=
    fun n hn ↦ (Option.some.inj hn).symm
  refine h.ask hop hslots hnotes ?_
  rw [hdismissed, h.dismissed, SharedSlots.dismissed_ask_of_ne s hi, SharedSlots.slots_ask,
    Function.update_of_ne hi]

variable [AdminNode σ]

private theorem check (h : x.Follows s) :
    (x.step (.ask .isValid)).Follows (s.ask .rights x.wizard.rightsOp) := by
  obtain ⟨-, hslots, hnotes⟩ := x.wizard.perform_isValid x.desk
  refine h.ask ?_ hslots hnotes ?_
  · unfold Wizard.rightsOp
    split
    · nofun
    · exact fun n hn ↦ (Option.some.inj hn).symm
  · show (x.dismissed && !decide x.wizard.HasRights) = _
    rw [SharedSlots.isRaised_ask]
    unfold Wizard.rightsOp
    by_cases hrights : x.wizard.HasRights
    · rw [if_pos hrights, decide_eq_true hrights, Bool.not_true, Bool.and_false]
      rfl
    · rw [if_neg hrights, decide_eq_false hrights, SharedSlots.dismissed_ask_ensure, h.dismissed,
        Bool.not_false, Bool.and_true]
      rfl

private theorem showWarnings (h : x.Follows s) :
    ∃ s', (x.step (.ask .showWarnings)).Follows s' := by
  let rules := x.wizard.rulesNotice.toggle x.wizard.hasInvalidRow (Wizard.label .rules) x.desk.notes
  let between : WizardSession σ :=
    ⟨{ x.wizard with rulesNotice := rules.1 }, { x.desk with notes := rules.2 }, x.dismissed⟩
  have hbetween : between.Follows
      (s.ask .rules (.toggle x.wizard.hasInvalidRow (Wizard.label .rules))) := by
    refine h.toggle (by decide) _ ?_ rfl rfl
    funext i
    cases i <;> rfl
  refine ⟨_, hbetween.toggle (i := .missing) (by decide) (!x.wizard.hasRights) ?_ rfl rfl⟩
  funext i
  cases i <;> rfl

private theorem step (h : x.Follows s) (event : WizardEvent σ) :
    ∃ s', (x.step event).Follows s' := by
  cases event with
  | ask op =>
    by_cases hcheck : op = .isValid
    · subst hcheck
      exact ⟨_, h.check⟩
    by_cases hshow : op = .showWarnings
    · subst hshow
      exact h.showWarnings
    obtain ⟨hslots, hnotes⟩ := Wizard.perform_of_ne hcheck hshow x.wizard x.desk
    refine ⟨s, h.congr hslots hnotes ?_⟩
    cases op with
    | isValid => exact absurd rfl hcheck
    | _ => rfl
  | dismiss id context => exact ⟨_, h.dismiss id context⟩
  | wait milliseconds =>
    obtain ⟨standing, hsound⟩ := h.sound
    exact ⟨s.advance milliseconds, h.slots, congrArg (·.advance milliseconds) h.notes,
      ⟨standing, hsound.advance milliseconds⟩, h.labelled, h.direct, h.dismissed⟩
  | node change => exact ⟨s, h.congr rfl rfl rfl⟩

end Follows

private theorem follows_make (user : User) (rolePage : Nat) (node : σ) :
    (make user rolePage node).Follows (SharedSlots.make Board.empty) where
  slots := (Wizard.slots_make user rolePage).symm
  notes := rfl
  sound := ⟨[], SharedSlots.Sound.make Board.Keeps.empty⟩
  labelled := nofun
  direct := rfl
  dismissed := rfl

/-! ### Runs -/

variable [AdminNode σ]

private theorem follows_run (user : User) (rolePage : Nat) (node : σ)
    (events : List (WizardEvent σ)) :
    ∃ s, (events.foldl WizardSession.step (make user rolePage node)).Follows s := by
  refine List.foldlRecOn events WizardSession.step (motive := fun x ↦ ∃ s, x.Follows s)
    ⟨_, follows_make user rolePage node⟩ ?_
  rintro x ⟨s, h⟩ event -
  exact h.step event

/-- The warnings about rights right after a check. -/
theorem warnings_check {x : WizardSession σ} {s : SharedSlots WizardSlot Board} (h : x.Follows s) :
    (x.step (.ask .isValid)).warnings =
      if x.wizard.HasRights ∨ x.dismissed = true then [] else [Wizard.label .rights] := by
  have hdismissed : (x.step (.ask .isValid)).dismissed =
      (x.dismissed && !decide x.wizard.HasRights) := rfl
  rw [h.check.warnings_eq, SharedSlots.isRaised_ask, hdismissed, Wizard.rightsOp]
  by_cases hrights : x.wizard.HasRights
  · simp [hrights, SlotOp.leavesRaised]
  · cases hd : x.dismissed <;> simp [hrights, SlotOp.leavesRaised]

/-- After any run a check leaves at most one warning about rights on the board; and it leaves one
exactly when no row grants both reading and writing, if and only if some row does or the user has
not dismissed the warning since it was raised. -/
theorem inStep_check_run_iff (user : User) (rolePage : Nat) (node : σ)
    (events : List (WizardEvent σ)) :
    let x := events.foldl WizardSession.step (make user rolePage node)
    (x.step (.ask .isValid)).warnings.length ≤ 1 ∧
      ((x.step (.ask .isValid)).InStep ↔ x.wizard.HasRights ∨ x.dismissed = false) := by
  intro x
  obtain ⟨s, h⟩ := follows_run user rolePage node events
  have hwarnings : (x.step (.ask .isValid)).warnings =
      if x.wizard.HasRights ∨ x.dismissed = true then [] else [Wizard.label .rights] :=
    warnings_check h
  have hrights : (x.step (.ask .isValid)).wizard.HasRights ↔ x.wizard.HasRights := Iff.rfl
  rw [InStep, hrights, hwarnings]
  by_cases hr : x.wizard.HasRights
  · simp [hr]
  · cases hd : x.dismissed <;> simp [hr]

/-- The user of a wizard without rows dismisses the warning of the first check. -/
def dismissedWarning : List (WizardEvent Store) :=
  [.ask .isValid, .dismiss ⟨0⟩ Note.aclContext]

/-- The next check finds no rights either, and raises no warning. -/
theorem not_inStep_dismissedWarning :
    ¬∀ (user : User) (rolePage : Nat) (node : Store) (events : List (WizardEvent Store)),
      ((events.foldl WizardSession.step (make user rolePage node)).step
        (.ask .isValid)).InStep := by
  intro h
  have hwarned := (h User.empty 100 Store.empty dismissedWarning).2.mpr (by decide)
  revert hwarned
  decide

end WizardSession

end SeriesAcl
