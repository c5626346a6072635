import SeriesAcl.Proofs.Access.Recognition
import SeriesAcl.Proofs.Editing.Loading
import SeriesAcl.Proofs.Editing.Picker
import SeriesAcl.Proofs.Editing.TaggedRows
import SeriesAcl.Proofs.Editing.WizardOperations

/-!
# From the wizard to the permissions tab

The list that the wizard hands out for a new series is what the permissions tab of that series
reads. The marks that deny and the field of the actions are lost on the way. The tab shows the
template that the wizard built the rows from, with its flags, as long as what was added names no
template role (`load_request`).
-/

namespace SeriesAcl

namespace Policy

variable {field : String} {org : Option String}

/-- The row with its actions in another field. -/
def inField (field : String) (p : Policy) : Policy :=
  { p with field := field }

/-! ### Rows of template roles -/

/-- The entries of a template role are those of the rows of template roles. -/
theorem filter_toEntries_inside {role : String} (hr : Role.isTemplateRole role org = true)
    (rows : List Policy) :
    (toEntries rows).filter (fun e ↦ e.role = role) =
      (toEntries (rows.filter (isInside org))).filter fun e ↦ e.role = role := by
  rw [toEntries_eq_flatMap, toEntries_eq_flatMap]
  induction rows with
  | nil => rfl
  | cons p rest ih =>
    cases hp : p.isInside org with
    | true =>
      rw [List.filter_cons_of_pos hp, List.flatMap_cons, List.flatMap_cons, List.filter_append,
        List.filter_append, ih]
    | false =>
      rw [List.filter_cons_of_neg (by simp [hp]), List.flatMap_cons, List.filter_append, ih,
        List.filter_eq_nil_iff.mpr, List.nil_append]
      intro e he hrole
      rw [isInside_of_role (mem_entries.mp he).1, of_decide_eq_true hrole, hr] at hp
      cases hp

/-- Only the rows of template roles have a say in what their entries are classified as. -/
theorem classify_group_toEntries (rows : List Policy) :
    Classification.classify (group (toEntries rows) field) org =
      Classification.classify (group (toEntries (rows.filter (isInside org))) field) org := by
  apply Classification.classify_congr
  intro role hr
  have hfilter := filter_toEntries_inside hr rows
  have hmem : ∀ entries : List Entry, (∃ e ∈ entries, e.role = role) ↔
      entries.filter (fun e ↦ e.role = role) ≠ [] := by
    intro entries
    rw [ne_eq, List.filter_eq_nil_iff]
    simp
  simp only [find?_group, hmem, summary, hfilter]

/-- A row is written in the same way in every field. -/
theorem toEntries_inField (field : String) (rows : List Policy) :
    toEntries (rows.map (inField field)) = toEntries rows := by
  rw [toEntries_eq_flatMap, toEntries_eq_flatMap, List.flatMap_map]
  rfl

private theorem Tidied.inField {rows : List Policy} (h : Tidied field rows) (field' : String) :
    Tidied field' (rows.map (Policy.inField field')) := by
  constructor
  · intro p hp
    obtain ⟨q, hq, rfl⟩ := List.mem_map.mp hp
    exact ⟨(h.tidy q hq).named, rfl, (h.tidy q hq).nodup, (h.tidy q hq).plain⟩
  · rw [List.map_map]
    exact h.distinct

/-- The rows of a template still follow it when they are written and read in another field. -/
theorem classify_group_toEntries_expand {t : Template} (ht : t ∈ Template.catalog)
    (ho : t.Resolves org) (flags : Flags) (field' : String) :
    Classification.classify
      (group (toEntries (group (t.expand org flags) field)) field') org = .template t.id flags := by
  obtain ⟨role, hrole, -⟩ := Template.exists_roleFor ht ho
  obtain ⟨p, hp, hr, htidy, ha⟩ := Template.group_expand ht hrole flags field
  have hrows : Tidied field' ([p].map (Policy.inField field')) := by
    rw [← hp]
    exact (tidied_group _).inField field'
  have hkeep : (p.inField field').isRetainable = true := by
    have hrole' : (p.inField field').role = some role := hr
    exact (isRetainable_iff_allows hrole').mpr
      ⟨_, (ha _).mpr (Template.castView_mem_terms ht flags)⟩
  rw [hp, ← toEntries_inField field', group_toEntries hrows, List.map_singleton,
    List.filter_cons_of_pos hkeep, List.filter_nil]
  exact Classification.classify_row ht ho hrole (hrows.tidy _ List.mem_cons_self) hr ha

/-! ### Rows that go -/

/-- Deleting a row outside the template roles leaves the rows of the template roles. -/
theorem filter_removeLast {target : Policy} (ht : target.isInside org = false)
    (rows : List Policy) :
    (removeLast rows target).filter (isInside org) = rows.filter (isInside org) := by
  rcases removeLast_cases rows target with ⟨heq, -⟩ | ⟨above, p, below, rfl, hsame, heq⟩
  · rw [heq]
  · have hp : p.isInside org = false := by
      rw [isInside, role_of_sameRow hsame]
      exact ht
    rw [heq, List.filter_append, List.filter_append, List.filter_cons_of_neg (by simp [hp])]

end Policy

/-- Whether an operation leaves those of some rows alone that name template roles: it adds, edits
and deletes rows of other roles only, or no rows at all. -/
def WizardOp.Spares (org : Option String) (rows : List Policy) : WizardOp → Prop
  | .reset => False
  | .applyTemplate _ => False
  | .editRows edit => (edit rows).filter (Policy.isInside org) = rows.filter (Policy.isInside org)
  | .deleteRow target => target.isInside org = false
  | .addTag tag => Role.isTemplateRole tag.value org = false
  | .removeTag tag => Role.isTemplateRole tag.value org = false
  | _ => True

/-- What rows that were built from a template are classified as. -/
def Classification.ofTemplate (t : Template) (flags : Flags) : Classification :=
  if t.isCustom then .custom else .template t.id flags

namespace Wizard

/-- The rows of a wizard for template roles. -/
def templateRoleRows (org : Option String) (w : Wizard) : List Policy :=
  w.rows.filter (Policy.isInside org)

variable {org : Option String}

private theorem Agree.templateRoleRows {w w' : Wizard} (h : w.Agree w') :
    w'.templateRoleRows org = w.templateRoleRows org := by
  rw [Wizard.templateRoleRows, h.rows]
  rfl

/-- The rows of a template are those of the template roles, next to a creator without one. -/
theorem filter_templateRows {own : Option Policy} (hown : ∀ p ∈ own, p.isInside org = false)
    {t : Template} (ht : t ∈ Template.custom :: Template.catalog) (ho : t.Resolves org)
    (flags : Flags) :
    (templateRows own t org flags).filter (Policy.isInside org) =
      Policy.group (t.expand org flags) Policy.wizardField := by
  have hgroup : (Policy.group (t.expand org flags) Policy.wizardField).filter
      (Policy.isInside org) = Policy.group (t.expand org flags) Policy.wizardField :=
    Policy.filter_isInside_group_expand ht ho flags
  unfold templateRows
  cases own with
  | none => exact hgroup
  | some row =>
    dsimp only
    split
    · rw [List.filter_cons_of_neg (by simp [hown row rfl]), hgroup]
    · exact hgroup

section Perform

variable {σ ν : Type} [AdminNode σ] [NoteSink ν]

/-- Whether all of some operations, one after another, leave the rows of template roles alone. -/
def SparesAll (org : Option String) (w : Wizard) : List (WizardOp × Desk σ ν) → Prop
  | [] => True
  | op :: rest => op.1.Spares org w.rows ∧ SparesAll org (w.perform op.1 op.2).editor rest

private theorem templateRoleRows_perform (w : Wizard) {op : WizardOp} (h : op.Spares org w.rows)
    (desk : Desk σ ν) :
    (w.perform op desk).editor.templateRoleRows org = w.templateRoleRows org := by
  cases op with
  | reset => exact h.elim
  | applyTemplate preset => exact h.elim
  | selectTemplate id =>
    rw [perform, selectTemplate]
    split <;> rfl
  | setFlags flags => rfl
  | addRow =>
    show (w.rows ++ [Policy.blank none Policy.wizardField]).filter _ = _
    rw [List.filter_append]
    exact List.append_nil _
  | editRows edit => exact h
  | deleteRow target => exact Policy.filter_removeLast h w.rows
  | addTag tag =>
    have hrow : (Policy.readWrite tag.value Policy.wizardField).isInside org = false := h
    show (w.rows ++ [Policy.readWrite tag.value Policy.wizardField]).filter _ = _
    rw [List.filter_append, List.filter_cons_of_neg (by simp [hrow])]
    exact List.append_nil _
  | removeTag tag =>
    have hrow : (Policy.readWrite tag.value Policy.wizardField).isInside org = false := h
    exact Policy.filter_removeLast hrow w.rows
  | isValid => rfl
  | showWarnings => rfl
  | moreRoles search => exact (w.agree_moreRoles search desk.node).templateRoleRows
  | reloadRoles => rfl
  | loadActions => exact (w.agree_loadActions desk.node).templateRoleRows
  | loadUsers => exact (w.agree_loadUsers desk.node).templateRoleRows
  | load => exact (w.agree_load desk.node).templateRoleRows

private theorem templateRoleRows_performAll (w : Wizard) {ops : List (WizardOp × Desk σ ν)}
    (h : w.SparesAll org ops) :
    (w.performAll ops).templateRoleRows org = w.templateRoleRows org := by
  induction ops generalizing w with
  | nil => rfl
  | cons op rest ih =>
    obtain ⟨hop, hrest⟩ := h
    exact (ih _ hrest).trans (w.templateRoleRows_perform hop op.2)

end Perform

/-- What the request of a wizard is classified as, once its rows were built from a template. -/
theorem classify_request {w : Wizard} {t : Template} {flags : Flags}
    (ht : t ∈ Template.custom :: Template.catalog) (ho : t.Resolves org)
    (hrows : w.templateRoleRows org = Policy.group (t.expand org flags) Policy.wizardField)
    (field : String) :
    Classification.classify (Policy.group w.request.entries field) org =
      .ofTemplate t flags := by
  rw [request, Policy.classify_group_toEntries, ← templateRoleRows, hrows]
  rcases List.mem_cons.mp ht with rfl | ht
  · cases org <;> rfl
  · have hbuiltin : ∀ t ∈ Template.catalog, t.isCustom = false := by decide
    rw [Policy.classify_group_toEntries_expand ht ho, Classification.ofTemplate, hbuiltin t ht]
    rfl

end Wizard

open Wizard in
/-- After any history the selected template can be applied. Whatever is then added outside the
template roles, an editor of the same user that loads the requested list classifies it as the
template with the flags it was applied with, and as custom for the sentinel. -/
theorem SeriesEditor.load_request {σ ν σ' ν' : Type} [AdminNode σ] [NoteSink ν] [AdminNode σ']
    [NoteSink ν'] (user : User)
    (hown : ∀ role, user.ownRole = some role → Role.isTemplateRole role user.homeOrg = false)
    (rolePage : Nat) (history : List (WizardOp × Desk σ ν)) (preset : Bool) (t : Template)
    (hselected : ((Wizard.make user rolePage).performAll history).selected = some t)
    (horg : t.Resolves user.homeOrg) :
    ∃ built, ((Wizard.make user rolePage).performAll history).applyTemplate preset = .ok built ∧
      ∀ additions : List (WizardOp × Desk σ ν), built.SparesAll user.homeOrg additions →
      ∀ (e : SeriesEditor) (desk : Desk σ' ν') (block : SeriesAccess),
        (AdminNode.currentUser desk.node).1 = .ok user →
        (AdminNode.readAccess e.series desk.node).1 = .ok ⟨some block⟩ →
        block.entries = .ok (built.performAll additions).request.entries →
        (e.load desk).answer = .ok () ∧
          Classification.classify (e.load desk).editor.rows (e.load desk).editor.org =
            .ofTemplate t ((Wizard.make user rolePage).performAll history).flags ∧
          (e.load desk).editor.isCustom = t.isCustom ∧
          (t.isCustom = false → (e.load desk).editor.selected = some t ∧
            (e.load desk).editor.flags =
              ((Wizard.make user rolePage).performAll history).flags) := by
  have hw := (remembers_make user rolePage).performAll history
  generalize (Wizard.make user rolePage).performAll history = w at hselected hw ⊢
  have ht := hw.known t hselected
  refine ⟨w.applySelected, hw.applyTemplate_eq preset, ?_⟩
  intro additions hspares e desk block huser hread hentries
  have hbuilt : w.applySelected.templateRoleRows user.homeOrg =
      Policy.group (t.expand user.homeOrg w.flags) Policy.wizardField := by
    rw [applySelected, hselected]
    show (templateRows w.ownRow t w.user.homeOrg w.flags).filter _ = _
    rw [hw.user]
    refine filter_templateRows ?_ ht horg w.flags
    intro row hrow
    rw [ownRow, hw.user, Option.mem_def, Option.map_eq_some_iff] at hrow
    obtain ⟨role, hrole, rfl⟩ := hrow
    exact hown role hrole
  obtain ⟨hanswer, hagree, -⟩ := e.load_of_block desk hread hentries
  obtain ⟨hrows, hshows⟩ := showsEntries_of_agree hagree
  have hclass : Classification.classify (e.load desk).editor.rows (e.load desk).editor.org =
      .ofTemplate t w.flags := by
    have horg' : (e.load desk).editor.org = user.homeOrg := by
      rw [hagree.org, org_replaceRows, huser]
      rfl
    rw [hrows, horg']
    exact classify_request ht horg
      ((w.applySelected.templateRoleRows_performAll hspares).trans hbuilt) _
  refine ⟨hanswer, hclass, ?_⟩
  rw [hclass, Classification.ofTemplate] at hshows
  cases hcustom : t.isCustom with
  | true =>
    rw [hcustom] at hshows
    exact ⟨hshows, nofun⟩
  | false =>
    rw [hcustom] at hshows
    obtain ⟨hno, hsel, hflags, -⟩ := hshows
    exact ⟨hno, fun _ ↦ ⟨hsel.trans (Template.byId?_of_mem ht), hflags⟩⟩

/-- A member of an organization with a role of their own. -/
def User.member : User where
  person := Person.empty
  org := ⟨"org", none, Dict.empty.insert "aai.org" "example.org"⟩
  roles := []
  role := some "ROLE_USER_A"

namespace Wizard

/-- A desk with an empty store. -/
def emptyDesk : Desk Store Board := ⟨Store.empty, Board.empty⟩

/-- The organization template is chosen, with downloads. -/
def choices : List (WizardOp × Desk Store Board) :=
  [(.selectTemplate 3, emptyDesk), (.setFlags ⟨true, false⟩, emptyDesk)]

/-- A colleague, a row that is still empty and one that grants an action only. -/
def guests : List (WizardOp × Desk Store Board) :=
  [(.addTag ⟨"b", "B", "ROLE_USER_B"⟩, emptyDesk), (.addRow, emptyDesk),
    (.editRows (· ++ [⟨some "ROLE_C", false, false, Policy.wizardField, [Action.castView]⟩]),
      emptyDesk)]

/-- The organization template. -/
def organizationTemplate : Template :=
  Template.make 3 "organization" (some Template.orgRole) Template.listedActions

end Wizard

open Wizard in
/-- A member of an organization hands out such a list, and the template is recognised. -/
theorem SeriesEditor.load_request_member :
    (∀ role, User.member.ownRole = some role →
        Role.isTemplateRole role User.member.homeOrg = false) ∧
      ((Wizard.make User.member 100).performAll choices).selected = some organizationTemplate ∧
      organizationTemplate.Resolves User.member.homeOrg ∧
      ∃ built, ((Wizard.make User.member 100).performAll choices).applyTemplate false =
          .ok built ∧ built.SparesAll User.member.homeOrg guests ∧
        let node := { Store.empty with user := User.member }.putList "s"
          (built.performAll guests).request.entries false
        let opened := (SeriesEditor.make "s" 100).load (⟨node, Board.empty⟩ : Desk Store Board)
        opened.answer = .ok () ∧ opened.editor.isCustom = false ∧
          opened.editor.selected = some organizationTemplate ∧
          opened.editor.flags = ⟨true, false⟩ := by
  have hown : ∀ role, User.member.ownRole = some role →
      Role.isTemplateRole role User.member.homeOrg = false := by
    intro role hrole
    have hname : User.member.ownRole = some "ROLE_USER_A" := rfl
    cases hname.symm.trans hrole
    decide
  have hspares : ∀ w : Wizard, w.SparesAll User.member.homeOrg guests := by
    intro w
    refine ⟨(by decide : Role.isTemplateRole "ROLE_USER_B" User.member.homeOrg = false), trivial,
      ?_, trivial⟩
    exact (List.filter_append _ _).trans (List.append_nil _)
  have hselected : ((Wizard.make User.member 100).performAll choices).selected =
      some organizationTemplate := rfl
  obtain ⟨built, hbuilt, hload⟩ := @SeriesEditor.load_request Store Board Store Board _ _ _ _
    User.member hown 100 choices false organizationTemplate hselected fun _ ↦ rfl
  refine ⟨hown, hselected, fun _ ↦ rfl, built, hbuilt, hspares built, ?_⟩
  obtain ⟨hanswer, -, hcustom, hshown⟩ := hload guests (hspares built) (SeriesEditor.make "s" 100)
    ⟨{ Store.empty with user := User.member }.putList "s"
      (built.performAll guests).request.entries false, Board.empty⟩ _ rfl rfl
    (SeriesAccess.entries_written _ _ _)
  exact ⟨hanswer, hcustom, hshown rfl⟩

end SeriesAcl
