import SeriesAcl.Admin.Store
import SeriesAcl.Notice.Board
import SeriesAcl.Proofs.Editing.TaggedRows
import SeriesAcl.Proofs.Editing.WizardRows

/-!
# The tags of the wizard

The wizard keeps tags apart from the rows: it never makes them again from the rows, and only a reset
takes all of them away. So every tag has a row throughout a run exactly if no template is applied
over a tag whose role the new rows do not name, and no deletion, by hand or with a tag, takes the
only row of a tag that stays; then the request grants something to everyone who is shown as selected
(`tagged_performAll_iff`). A template that is applied after a tag was added breaks this
(`not_tagged_templateAfterTag`).
-/

namespace SeriesAcl

namespace Policy

variable {org : Option String} {flags : Flags} {field role : String} {t : Template}
  {rows rows' : List Policy}

/-! ### Rows that grant something -/

/-- Every row that names a role is worth keeping. -/
def EachGrants (rows : List Policy) : Prop :=
  ∀ p ∈ rows, p.role.isSome = true → p.isRetainable = true

/-- Where every row grants something, the roles that are named are those with a grant. -/
theorem EachGrants.names_iff (h : EachGrants rows) :
    Names rows role ↔ ∃ action, (role, action) ∈ Entry.grants (toEntries rows) := by
  simp only [mem_grants_toEntries]
  constructor
  · rintro ⟨p, hp, hr⟩
    obtain ⟨action, ha⟩ := (isRetainable_iff_allows hr).mp (h p hp (by rw [hr]; rfl))
    exact ⟨action, p, hp, hr, ha⟩
  · rintro ⟨-, p, hp, hr, -⟩
    exact ⟨p, hp, hr⟩

end Policy

namespace Wizard

variable {user : User} {w : Wizard}

/-! ### Rows that are built -/

/-- The rows that are built from a template name the creator and the role of the template. -/
theorem names_applySelected {t : Template} (ht : t ∈ Template.custom :: Template.catalog)
    (hs : w.selected = some t) (role : String) :
    Policy.Names w.applySelected.rows role ↔
      w.user.ownRole = some role ∨ t.roleFor w.user.homeOrg = some role := by
  have hbeside : Policy.Names ((w.user.roleBeside t).toList.map fun role ↦
      Policy.readWrite role Policy.wizardField) role ↔ w.user.roleBeside t = some role := by
    simp [Policy.Names, Policy.readWrite]
  rw [rows_applySelected ht hs, Policy.names_append, Policy.names_group_expand ht, hbeside,
    User.roleBeside_eq_some_iff]
  tauto

/-- The rows that the wizard makes grant something if they name a role. -/
theorem holdsOfMade_grants (user : User) :
    HoldsOfMade user fun p ↦ p.role.isSome = true → p.isRetainable = true where
  blank := nofun
  readWrite _ _ := rfl
  template _ ht _ _ hp _ := Policy.isRetainable_of_mem_group_expand ht hp

private theorem eachGrants_reset (w : Wizard) : Policy.EachGrants w.reset.rows :=
  (holdsOfMade_grants w.user).reset

/-! ### Operations -/

/-- Every tag has a row of its role. -/
def Tagged (w : Wizard) : Prop :=
  Policy.Carries w.rows w.tags

/-- Decided by a search for the row of each tag. -/
instance (w : Wizard) : Decidable w.Tagged :=
  inferInstanceAs (Decidable (Policy.Carries w.rows w.tags))

/-- Whether an operation leaves every tag its row: the rows of a template name the roles of all
tags, a deletion takes the only row of no tag, that with a tag the only row of no other tag, and
rows that are edited still carry all tags. -/
def KeepsTags (w : Wizard) : WizardOp → Prop
  | .applyTemplate _ => ∀ t, w.selected = some t → ∀ tag ∈ w.tags,
      w.user.ownRole = some tag.value ∨ t.roleFor w.user.homeOrg = some tag.value
  | .deleteRow target => ∀ tag ∈ w.tags, ¬Policy.IsOnly target w.rows tag.value
  | .removeTag tag => ∀ other ∈ w.tags, other ≠ tag →
      ¬Policy.IsOnly (Policy.readWrite tag.value Policy.wizardField) w.rows other.value
  | .editRows edit => Policy.Carries (edit w.rows) w.tags
  | _ => True

private theorem Tagged.congr (h : w.Tagged) {w' : Wizard} (ha : w.Agree w') : w'.Tagged := by
  rw [Tagged, ha.rows, ha.tags]
  exact h

private theorem tags_applySelected (w : Wizard) : w.applySelected.tags = w.tags := by
  unfold applySelected
  split <;> rfl

private theorem tagged_applySelected_iff (h : w.Remembers user) (ht : w.Tagged) (preset : Bool) :
    w.applySelected.Tagged ↔ w.KeepsTags (.applyTemplate preset) := by
  rw [Tagged, tags_applySelected, KeepsTags]
  cases hs : w.selected with
  | none =>
    refine iff_of_true ?_ nofun
    rw [applySelected, hs]
    exact ht
  | some t =>
    simp only [Option.some.injEq, forall_eq']
    exact forall₂_congr fun tag _ ↦ names_applySelected (h.known t hs) hs tag.value

private theorem tagged_removeTag_iff (ht : w.Tagged) (tag : UserTag) :
    (w.removeTag tag).Tagged ↔ w.KeepsTags (.removeTag tag) := by
  show (∀ other ∈ w.tags.filter fun t ↦ t ≠ tag, _) ↔ _
  simp only [List.mem_filter, decide_eq_true_eq, and_imp, KeepsTags]
  refine forall₃_congr fun other ho _ ↦ ?_
  show Policy.Names (Policy.removeLast w.rows _) other.value ↔ _
  rw [Policy.names_removeLast_iff, and_iff_right (ht other ho)]

section Perform

variable {σ ν : Type} [AdminNode σ] [NoteSink ν]

/-- After an operation every tag still has its row exactly if the operation leaves it. -/
theorem tagged_perform_iff (h : w.Remembers user) (ht : w.Tagged) (op : WizardOp)
    (desk : Desk σ ν) : (w.perform op desk).editor.Tagged ↔ w.KeepsTags op := by
  cases op with
  | applyTemplate preset =>
    rw [perform, h.applyTemplate_eq]
    exact tagged_applySelected_iff h ht preset
  | deleteRow target => exact Policy.Carries.removeLast_iff ht
  | removeTag tag => exact tagged_removeTag_iff ht tag
  | editRows edit => exact Iff.rfl
  | reset =>
    refine iff_true_intro ?_
    show Policy.Carries w.reset.rows w.reset.tags
    rw [reset, tags_applySelected]
    exact fun _ hm ↦ absurd hm List.not_mem_nil
  | addTag tag => exact iff_true_intro (Policy.Carries.concat_tag ht tag Policy.wizardField)
  | addRow => exact iff_true_intro (Policy.Carries.append ht _)
  | selectTemplate id =>
    refine iff_true_intro ?_
    rw [perform, selectTemplate]
    split <;> exact ht
  | setFlags flags => exact iff_true_intro ht
  | isValid => exact iff_true_intro ht
  | showWarnings => exact iff_true_intro ht
  | moreRoles search => exact iff_true_intro (ht.congr (w.agree_moreRoles search desk.node))
  | reloadRoles => exact iff_true_intro ht
  | loadActions => exact iff_true_intro (ht.congr (w.agree_loadActions desk.node))
  | loadUsers => exact iff_true_intro (ht.congr (w.agree_loadUsers desk.node))
  | load => exact iff_true_intro (ht.congr (w.agree_load desk.node))

/-! ### Runs -/

private theorem eachGrants_performAll (h : w.Remembers user) (hrows : Policy.EachGrants w.rows)
    {ops : List (WizardOp × Desk σ ν)} (hops : ∀ op ∈ ops, op.1.editsRows = false) :
    Policy.EachGrants (w.performAll ops).rows :=
  (holdsOfMade_grants user).performAll h hrows hops

/-- Throughout a run every tag has a row of its role exactly if no template is applied over a tag
whose role the new rows do not name, no deletion takes the only row of a tag that stays, and no
direct edit takes the rows of a tag. In a run without direct edits every tag has a row exactly if
the request grants something to the role of every tag. -/
theorem tagged_performAll_iff (user : User) (rolePage : Nat) (ops : List (WizardOp × Desk σ ν)) :
    let after := (make user rolePage).performAll
    ((∀ first last, ops = first ++ last → (after first).Tagged) ↔
      ∀ first op last, ops = first ++ op :: last → (after first).KeepsTags op.1) ∧
    ((∀ op ∈ ops, op.1.editsRows = false) →
      ((after ops).Tagged ↔ ∀ tag ∈ (after ops).tags, ∃ action,
        (tag.value, action) ∈ Entry.grants (after ops).request.entries)) := by
  intro after
  have hknown := remembers_make user rolePage
  have hrows : Policy.EachGrants (make user rolePage).rows := eachGrants_reset _
  constructor
  · have hmake : (make user rolePage).Tagged := by
      intro tag htag
      rw [make, reset, tags_applySelected] at htag
      exact absurd htag List.not_mem_nil
    have hrun := holds_throughout_iff (fun w : Wizard ↦ w.Remembers user ∧ w.Tagged)
      (fun _ (op : WizardOp × Desk σ ν) h ↦
        (and_iff_right (h.1.perform op.1 op.2)).trans (tagged_perform_iff h.1 h.2 op.1 op.2))
      ⟨hknown, hmake⟩ ops
    refine Iff.trans ?_ hrun
    exact forall₃_congr fun first last _ ↦ (and_iff_right (hknown.performAll first)).symm
  · intro hops
    exact forall₂_congr fun tag _ ↦ (eachGrants_performAll hknown hrows hops).names_iff

end Perform

/-- People of the directory who are picked after a template was applied, one of them taken back. -/
def pickedGuests : List (WizardOp × Desk Store Board) :=
  let desk : Desk Store Board := ⟨Store.empty, Board.empty⟩
  [(.selectTemplate 5, desk), (.applyTemplate false, desk),
    (.addTag ⟨"jane", "Jane", "ROLE_USER_JANE"⟩, desk),
    (.addTag ⟨"john", "John", "ROLE_USER_JOHN"⟩, desk),
    (.removeTag ⟨"jane", "Jane", "ROLE_USER_JANE"⟩, desk)]

/-- Who is left holds a grant. -/
theorem tagged_performAll_pickedGuests :
    let after := (make User.empty 100).performAll
    (∀ op ∈ pickedGuests, op.1.editsRows = false) ∧ (after pickedGuests).Tagged ∧
      (after pickedGuests).tags = [⟨"john", "John", "ROLE_USER_JOHN"⟩] ∧
      ∀ tag ∈ (after pickedGuests).tags, ∃ action,
        (tag.value, action) ∈ Entry.grants (after pickedGuests).request.entries := by
  intro after
  have hops : ∀ op ∈ pickedGuests, op.1.editsRows = false := by decide
  have htagged : (after pickedGuests).Tagged := by decide
  exact ⟨hops, htagged, by decide,
    ((tagged_performAll_iff User.empty 100 pickedGuests).2 hops).mp htagged⟩

/-- A person of the directory is given a row, and then a template is applied. -/
def templateAfterTag : List (WizardOp × Desk Store Board) :=
  let desk : Desk Store Board := ⟨Store.empty, Board.empty⟩
  [(.addTag ⟨"jane", "Jane", "ROLE_USER_JANE"⟩, desk), (.selectTemplate 5, desk),
    (.applyTemplate false, desk)]

/-- The tag stays without a row, so nothing is granted to that person. -/
theorem not_tagged_templateAfterTag :
    ¬∀ (user : User) (rolePage : Nat) (ops : List (WizardOp × Desk Store Board)),
      (∀ op ∈ ops, op.1.editsRows = false) → ((make user rolePage).performAll ops).Tagged := by
  intro h
  have htagged := h User.empty 100 templateAfterTag (by decide)
  revert htagged
  decide

end Wizard

end SeriesAcl
