import SeriesAcl.Admin.Store
import SeriesAcl.Notice.Board
import SeriesAcl.Proofs.Access.Validity
import SeriesAcl.Proofs.Editing.TaggedRows
import SeriesAcl.Proofs.Editing.WizardOperations

/-!
# The rows of the wizard

The rows that are built from a template are the one of the template and, in front of it, one for a
creator whose role the template leaves out (`rows_applySelected`). They name each role once and may
be submitted unless nobody in them may read and write (`rows_perform`). What holds of every row that
the wizard makes holds of all its rows, as long as none is edited directly
(`HoldsOfMade.performAll`).
-/

namespace SeriesAcl

/-- Whether an operation edits rows directly. -/
def WizardOp.editsRows : WizardOp → Bool
  | .editRows _ => true
  | _ => false

/-- Whether an operation builds the rows anew. -/
def WizardOp.builds : WizardOp → Bool
  | .reset => true
  | .applyTemplate _ => true
  | _ => false

/-- The template and the flags that an operation builds rows from: a reset goes back to the defaults
of the organization. -/
def WizardOp.choice (user : User) (w : Wizard) : WizardOp → Option Template × Flags
  | .reset => (user.org.defaultTemplate, user.org.defaultFlags)
  | _ => (w.selected, w.flags)

/-- The role that is given a row of its own beside those of a template: the one that stands for the
user alone, unless the template has it. -/
def User.roleBeside (u : User) (t : Template) : Option String :=
  u.ownRole.filter fun role ↦ t.roleFor u.homeOrg ≠ some role

private theorem User.ownRole_eq_some_iff {u : User} {role : String} :
    u.ownRole = some role ↔ u.role = some role ∧ role ≠ "" := by
  rw [ownRole, Option.filter_eq_some_iff, decide_eq_true_eq]

/-- The creator has a row of their own unless the template grants to their role. -/
theorem User.roleBeside_eq_some_iff {u : User} {t : Template} {role : String} :
    u.roleBeside t = some role ↔ u.ownRole = some role ∧ t.roleFor u.homeOrg ≠ some role := by
  rw [roleBeside, Option.filter_eq_some_iff, decide_eq_true_eq]

private theorem User.isSome_roleBeside_iff {u : User} {t : Template} :
    (u.roleBeside t).isSome = true ↔
      ∃ role, u.ownRole = some role ∧ t.roleFor u.homeOrg ≠ some role := by
  simp only [Option.isSome_iff_exists, roleBeside_eq_some_iff]

variable {org : Option String} {flags : Flags} {field role : String} {t : Template}

/-! ### The rows of a template -/

/-- The entries of a template name its role for the caller. -/
theorem Template.exists_mem_expand_iff (ht : t ∈ custom :: catalog) :
    (∃ e ∈ t.expand org flags, e.role = role) ↔ t.roleFor org = some role := by
  rcases List.mem_cons.mp ht with rfl | ht
  · exact iff_of_false (fun ⟨_, he, _⟩ ↦ List.not_mem_nil he) nofun
  · obtain ⟨r, hr⟩ := exists_roleFor_of_mem ht org
    rw [expand_eq ht hr, hr, Option.some.injEq]
    constructor
    · rintro ⟨e, he, rfl⟩
      obtain ⟨a, -, rfl⟩ := List.mem_map.mp he
      rfl
    · rintro rfl
      exact ⟨_, List.mem_map_of_mem (castView_mem_terms ht flags), rfl⟩

/-- Of the built-in templates one lets its role read and write. -/
theorem Template.read_write_mem_terms_iff (ht : t ∈ catalog) (flags : Flags) :
    (Action.read, true) ∈ t.terms flags ∧ (Action.write, true) ∈ t.terms flags ↔
      t.key = "lms" := by
  obtain ⟨_ | _, _ | _⟩ := flags <;> revert t <;> decide

namespace Policy

/-- A built-in template makes one row, which grants something to its role; the sentinel makes
none. -/
theorem group_expand_cases (ht : t ∈ Template.custom :: Template.catalog) :
    group (t.expand org flags) field = [] ∧ t.roleFor org = none ∨
      ∃ p r, group (t.expand org flags) field = [p] ∧ t.roleFor org = some r ∧ p.role = some r ∧
        p.isRetainable = true := by
  rcases List.mem_cons.mp ht with rfl | ht
  · exact .inl ⟨rfl, rfl⟩
  · obtain ⟨r, hr⟩ := Template.exists_roleFor_of_mem ht org
    obtain ⟨p, hp, hrole, -, hallows⟩ := Template.group_expand ht hr flags field
    refine .inr ⟨p, r, hp, hr, hrole, (isRetainable_iff_allows hrole).mpr ?_⟩
    exact ⟨_, (hallows _).mpr (Template.castView_mem_terms ht flags)⟩

/-- Every row of a template may be kept. -/
theorem isRetainable_of_mem_group_expand (ht : t ∈ Template.custom :: Template.catalog)
    {p : Policy} (hp : p ∈ group (t.expand org flags) field) : p.isRetainable = true := by
  rcases group_expand_cases ht with ⟨hrows, -⟩ | ⟨q, r, hrows, -, -, hkeep⟩
  · rw [hrows] at hp
    cases hp
  · rw [hrows, List.mem_singleton] at hp
    exact hp ▸ hkeep

/-- The rows of a template name its role for the caller. -/
theorem names_group_expand (ht : t ∈ Template.custom :: Template.catalog) :
    Names (group (t.expand org flags) field) role ↔ t.roleFor org = some role := by
  rcases group_expand_cases ht with ⟨hrows, hnone⟩ | ⟨p, r, hrows, hr, hrole, -⟩
  · rw [hrows, hnone]
    simp [Names]
  · rw [hrows, names_singleton, hrole, hr]

/-- A template makes a row with both marks exactly when it is the one for learning management
systems. -/
theorem exists_marks_group_expand_iff (ht : t ∈ Template.custom :: Template.catalog) :
    (∃ p ∈ group (t.expand org flags) field, p.read = true ∧ p.write = true) ↔ t.key = "lms" := by
  rcases List.mem_cons.mp ht with rfl | ht
  · exact iff_of_false (fun ⟨_, hp, _⟩ ↦ List.not_mem_nil hp) (by decide)
  · obtain ⟨r, hr⟩ := Template.exists_roleFor_of_mem ht org
    obtain ⟨p, hp, -, htidy, hallows⟩ := Template.group_expand ht hr flags field
    rw [hp, ← Template.read_write_mem_terms_iff ht flags, ← hallows, ← hallows]
    constructor
    · rintro ⟨q, hq, hread, hwrite⟩
      obtain rfl := List.mem_singleton.mp hq
      exact ⟨.inl ⟨hread, rfl⟩, .inr (.inl ⟨hwrite, rfl⟩)⟩
    · rintro ⟨hread, hwrite⟩
      exact ⟨p, List.mem_singleton_self p, htidy.read_of_allows hread,
        htidy.write_of_allows hwrite⟩

private theorem isNone_find?_iff {rows : List Policy} :
    (find? rows role).isNone = true ↔ ¬Names rows role := by
  simp [Names, find?]

end Policy

namespace Wizard

variable {user : User} {w : Wizard}

/-! ### Rows that are built -/

/-- The rows that are built from a template: a row for the creator, unless the template has their
role, and those of the template. -/
theorem rows_applySelected (ht : t ∈ Template.custom :: Template.catalog)
    (hs : w.selected = some t) :
    w.applySelected.rows =
      (w.user.roleBeside t).toList.map (fun role ↦ Policy.readWrite role Policy.wizardField) ++
        Policy.group (t.expand w.user.homeOrg w.flags) Policy.wizardField := by
  have hbeside : ∀ own, (Policy.find? (Policy.group (t.expand w.user.homeOrg w.flags)
      Policy.wizardField) own).isNone = true ↔ t.roleFor w.user.homeOrg ≠ some own := by
    intro own
    rw [Policy.isNone_find?_iff, Policy.names_group_expand ht]
  simp only [applySelected, hs, templateRows, ownRow, User.roleBeside]
  cases w.user.ownRole with
  | none => rfl
  | some own =>
    dsimp only [Option.map_some]
    split
    · next hnone =>
      have h : t.roleFor w.user.homeOrg ≠ some own := (hbeside own).mp hnone
      simp [Option.filter, h]
    · next hfound =>
      have h : t.roleFor w.user.homeOrg = some own := not_not.mp (mt (hbeside own).mpr hfound)
      simp [Option.filter, h]

/-- Rows that are built name each role once. -/
theorem nodup_roles_applySelected (ht : t ∈ Template.custom :: Template.catalog)
    (hs : w.selected = some t) : (w.applySelected.rows.map Policy.role).Nodup := by
  have hgroup : ((Policy.group (t.expand w.user.homeOrg w.flags) Policy.wizardField).map
      Policy.role).Nodup := (Policy.tidied_group _).distinct
  rw [rows_applySelected ht hs, List.map_append]
  cases hown : w.user.roleBeside t with
  | none => exact hgroup
  | some own =>
    refine List.nodup_cons.mpr ⟨fun hmem ↦ ?_, hgroup⟩
    obtain ⟨p, hp, hrole⟩ := List.mem_map.mp hmem
    exact (User.roleBeside_eq_some_iff.mp hown).2
      ((Policy.names_group_expand ht).mp ⟨p, hp, hrole⟩)

/-- Rows that are built may be submitted when the creator has a row of their own, or the template is
the one that lets its role read and write. -/
theorem isValid_applySelected_iff (ht : t ∈ Template.custom :: Template.catalog)
    (hs : w.selected = some t) :
    (Policy.check w.applySelected.rows .strict).isValid = true ↔
      t.key = "lms" ∨ (w.user.roleBeside t).isSome = true := by
  rw [Policy.isValid_strict_iff, rows_applySelected ht hs, List.forall_mem_append, and_iff_right]
  · simp only [List.mem_append, or_and_right, exists_or, Policy.exists_marks_group_expand_iff ht]
    rw [or_comm]
    cases w.user.roleBeside t with
    | none => simp
    | some own => simp [Policy.readWrite]
  · refine ⟨?_, fun _ ↦ Policy.isRetainable_of_mem_group_expand ht⟩
    intro p hp
    obtain ⟨own, -, rfl⟩ := List.mem_map.mp hp
    rfl

private theorem selected_applySelected (w : Wizard) : w.applySelected.selected = w.selected := by
  unfold applySelected
  split <;> rfl

private theorem flags_applySelected (w : Wizard) : w.applySelected.flags = w.flags := by
  unfold applySelected
  split <;> rfl

section Perform

variable {σ ν : Type} [AdminNode σ] [NoteSink ν]

/-- An operation that builds rows succeeds and builds those of its choice. -/
theorem perform_builds (h : w.Remembers user) {op : WizardOp} (hop : op.builds = true)
    (desk : Desk σ ν) :
    ∃ before : Wizard, before.Remembers user ∧ (before.selected, before.flags) = op.choice user w ∧
      w.perform op desk = ⟨.ok (), before.applySelected, desk⟩ := by
  cases op with
  | reset =>
    refine ⟨{ w with
      tags := []
      rows := w.ownRow.toList
      selected := w.user.org.defaultTemplate
      remembered := w.user.org.defaultTemplate.map (·.id)
      flags := w.user.org.defaultFlags }, ⟨h.user, rfl, ?_⟩, by rw [← h.user]; rfl, rfl⟩
    intro t ht
    obtain ⟨key, -, hkey⟩ := Option.bind_eq_some_iff.mp ht
    exact Template.mem_of_byKey? hkey
  | applyTemplate preset =>
    refine ⟨w, h, rfl, ?_⟩
    rw [perform, h.applyTemplate_eq]
    rfl
  | _ => cases hop

/-- After any run a reset and the application of a template succeed and build the rows of the
template: each role is named once, and the creator's row comes first exactly when the template does
not name their role. The step may then be left if the template is the one for learning management
systems, or the creator has a role besides that of the template, and not otherwise. -/
theorem rows_perform (user : User) (rolePage : Nat) (ops : List (WizardOp × Desk σ ν))
    {op : WizardOp} (hop : op.builds = true) (desk : Desk σ ν) :
    let w := (make user rolePage).performAll ops
    let turn := w.perform op desk
    turn.answer = .ok () ∧ (turn.editor.selected, turn.editor.flags) = op.choice user w ∧
      ∀ t, turn.editor.selected = some t →
        (turn.editor.rows.map Policy.role).Nodup ∧
        turn.editor.rows =
          (user.roleBeside t).toList.map (fun role ↦ Policy.readWrite role Policy.wizardField) ++
            Policy.group (t.expand user.homeOrg turn.editor.flags) Policy.wizardField ∧
        (∀ role, user.roleBeside t = some role ↔ user.role = some role ∧ role ≠ "" ∧
          ∀ e ∈ t.expand user.homeOrg turn.editor.flags, e.role ≠ role) ∧
        ∀ notes : ν, (turn.editor.isValid notes).1 = true ↔
          t.key = "lms" ∨ ∃ role, user.role = some role ∧ role ≠ "" ∧
            t.roleFor user.homeOrg ≠ some role := by
  intro w turn
  have hw : w.Remembers user := (remembers_make user rolePage).performAll ops
  obtain ⟨before, hbefore, hchoice, hperform⟩ := perform_builds hw hop desk
  have hturn : turn = ⟨.ok (), before.applySelected, desk⟩ := hperform
  rw [hturn, selected_applySelected, flags_applySelected]
  refine ⟨rfl, hchoice, ?_⟩
  intro t hs
  have ht := hbefore.known t hs
  have hnamed : ∀ role, (∀ e ∈ t.expand user.homeOrg before.flags, e.role ≠ role) ↔
      t.roleFor user.homeOrg ≠ some role := by
    intro role
    rw [ne_eq, ← Template.exists_mem_expand_iff ht]
    simp only [ne_eq, not_exists, not_and]
    rfl
  refine ⟨nodup_roles_applySelected ht hs, ?_, ?_, ?_⟩
  · rw [rows_applySelected ht hs, hbefore.user]
  · intro role
    rw [hnamed, User.roleBeside_eq_some_iff, User.ownRole_eq_some_iff, and_assoc]
  · intro notes
    show (Policy.check before.applySelected.rows .strict).isValid = true ↔ _
    rw [isValid_applySelected_iff ht hs, hbefore.user, User.isSome_roleBeside_iff]
    simp only [User.ownRole_eq_some_iff, and_assoc]

end Perform

/-- A learning management system that creates series itself, at home in an organization whose new
series follow the organization template. -/
def application : User where
  person := Person.empty
  org := ⟨"org", none, (Dict.empty.insert "aai.org" "example.org").insert
    "switch.acl.default_template" "organization"⟩
  roles := []
  role := some Role.externalApplication

/-- The template of the creator's own role is chosen, and a row is added. -/
def ownTemplate : List (WizardOp × Desk Store Board) :=
  let desk : Desk Store Board := ⟨Store.empty, Board.empty⟩
  [(.selectTemplate 5, desk), (.addRow, desk)]

/-- Beside the template of their own role the creator has no row, and beside another one they do. -/
theorem rows_perform_application :
    let w := (make application 100).performAll ownTemplate
    let desk : Desk Store Board := ⟨Store.empty, Board.empty⟩
    let applied := (w.perform (.applyTemplate false) desk).editor
    let reset := (w.perform .reset desk).editor
    WizardOp.builds (.applyTemplate false) = true ∧ WizardOp.builds .reset = true ∧
      applied.selected.map Template.key = some "lms" ∧
      (applied.rows.map Policy.role).Nodup ∧
      applied.rows.map Policy.role = [some Role.externalApplication] ∧
      (applied.isValid Board.empty).1 = true ∧
      reset.selected.map Template.key = some "organization" ∧
      (reset.rows.map Policy.role).Nodup ∧
      reset.rows.map Policy.role =
        [some Role.externalApplication, some (Role.orgMember "example.org")] ∧
      (reset.isValid Board.empty).1 = true := by
  intro w desk applied reset
  have happly : WizardOp.builds (.applyTemplate false) = true := rfl
  have hreset : WizardOp.builds .reset = true := rfl
  obtain ⟨hdistinct, hrows, -, hvalid⟩ := (rows_perform application 100 ownTemplate happly desk).2.2
    (Template.make 5 "lms" (some Role.externalApplication) Template.lmsActions) rfl
  obtain ⟨hdistinct', hrows', -, hvalid'⟩ :=
    (rows_perform application 100 ownTemplate hreset desk).2.2
      (Template.make 3 "organization" (some Template.orgRole) Template.listedActions) rfl
  refine ⟨happly, hreset, rfl, hdistinct, ?_, (hvalid Board.empty).mpr (.inl rfl), rfl, hdistinct',
    ?_, (hvalid' Board.empty).mpr (.inr ⟨Role.externalApplication, rfl, by decide, by decide⟩)⟩
  · exact (congrArg (List.map Policy.role) hrows).trans (by decide)
  · exact (congrArg (List.map Policy.role) hrows').trans (by decide)

/-! ### Rows that are not edited -/

/-- A property of the rows that the wizard makes for a user: empty ones, those that read and write
and those of the templates. -/
structure HoldsOfMade (user : User) (P : Policy → Prop) : Prop where
  blank : P (Policy.blank none Policy.wizardField)
  readWrite : ∀ role, P (Policy.readWrite role Policy.wizardField)
  template : ∀ t ∈ Template.custom :: Template.catalog, ∀ flags,
    ∀ p ∈ Policy.group (t.expand user.homeOrg flags) Policy.wizardField, P p

namespace HoldsOfMade

variable {P : Policy → Prop}

private theorem applySelected (hP : HoldsOfMade w.user P)
    (hknown : ∀ t, w.selected = some t → t ∈ Template.custom :: Template.catalog)
    (hrows : ∀ p ∈ w.rows, P p) : ∀ p ∈ w.applySelected.rows, P p := by
  cases hs : w.selected with
  | none =>
    rw [Wizard.applySelected, hs]
    exact hrows
  | some t =>
    rw [rows_applySelected (hknown t hs) hs, List.forall_mem_append]
    refine ⟨?_, hP.template t (hknown t hs) w.flags⟩
    intro p hp
    obtain ⟨role, -, rfl⟩ := List.mem_map.mp hp
    exact hP.readWrite role

/-- The property holds of the rows after a reset. -/
theorem reset (hP : HoldsOfMade w.user P) : ∀ p ∈ w.reset.rows, P p := by
  refine applySelected (w := { w with
    tags := []
    rows := w.ownRow.toList
    selected := w.user.org.defaultTemplate
    remembered := w.user.org.defaultTemplate.map (·.id)
    flags := w.user.org.defaultFlags }) hP ?_ ?_
  · intro t ht
    obtain ⟨key, -, hkey⟩ := Option.bind_eq_some_iff.mp ht
    exact Template.mem_of_byKey? hkey
  · intro p hp
    obtain ⟨role, -, rfl⟩ := Option.map_eq_some_iff.mp (Option.mem_toList.mp hp)
    exact hP.readWrite role

variable {σ ν : Type} [AdminNode σ] [NoteSink ν]

private theorem perform (hP : HoldsOfMade user P) (h : w.Remembers user) (hrows : ∀ p ∈ w.rows, P p)
    {op : WizardOp} (hop : op.editsRows = false) (desk : Desk σ ν) :
    ∀ p ∈ (w.perform op desk).editor.rows, P p := by
  have hw : HoldsOfMade w.user P := h.user ▸ hP
  have hadd : ∀ row, P row → ∀ p ∈ w.rows ++ [row], P p := by
    intro row hrow
    exact List.forall_mem_append.mpr ⟨hrows, List.forall_mem_singleton.mpr hrow⟩
  have hremove : ∀ target, ∀ p ∈ Policy.removeLast w.rows target, P p := by
    intro target p hp
    exact hrows p ((Policy.removeLast_sublist w.rows target).mem hp)
  cases op with
  | editRows edit => cases hop
  | applyTemplate preset =>
    rw [Wizard.perform, h.applyTemplate_eq]
    exact hw.applySelected h.known hrows
  | reset => exact hw.reset
  | deleteRow target => exact hremove target
  | removeTag tag => exact hremove _
  | addTag tag => exact hadd _ (hP.readWrite tag.value)
  | addRow => exact hadd _ hP.blank
  | selectTemplate id =>
    rw [Wizard.perform, selectTemplate]
    split <;> exact hrows
  | setFlags flags => exact hrows
  | isValid => exact hrows
  | showWarnings => exact hrows
  | moreRoles search => exact hrows
  | reloadRoles => exact hrows
  | loadActions => exact (w.agree_loadActions desk.node).rows ▸ hrows
  | loadUsers => exact (w.agree_loadUsers desk.node).rows ▸ hrows
  | load => exact (w.agree_load desk.node).rows ▸ hrows

/-- What holds of every row that the wizard makes holds of all rows of a run without direct
edits. -/
theorem performAll (hP : HoldsOfMade user P) (h : w.Remembers user) (hrows : ∀ p ∈ w.rows, P p)
    {ops : List (WizardOp × Desk σ ν)} (hops : ∀ op ∈ ops, op.1.editsRows = false) :
    ∀ p ∈ (w.performAll ops).rows, P p := by
  induction ops generalizing w with
  | nil => exact hrows
  | cons op rest ih =>
    exact ih (h.perform op.1 op.2) (hP.perform h hrows (hops op List.mem_cons_self) op.2)
      fun o ho ↦ hops o (List.mem_cons_of_mem _ ho)

end HoldsOfMade

end Wizard

end SeriesAcl
