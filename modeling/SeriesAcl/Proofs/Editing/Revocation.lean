import SeriesAcl.Proofs.Editing.SelectedTags
import SeriesAcl.Proofs.Editing.WizardRows

/-!
# Users who are taken back

The permissions tab takes all rows of a user away, the wizard only the last one that reads and
writes. So the wizard revokes what a user was granted exactly if the user had no other row
(`revoked_removeTag_iff`). Someone who was picked twice keeps a row, although the tag is gone
(`not_revoked_pickedTwice`).
-/

namespace SeriesAcl

namespace Policy

variable {rows : List Policy} {role field : String}

/-- A role has no row, or a single one, which reads and writes. -/
structure AtMostReadWrite (rows : List Policy) (role : String) : Prop where
  single : (rows.filter fun p ↦ p.role = some role).length ≤ 1
  marks : ∀ p ∈ rows, p.role = some role → p.read = true ∧ p.write = true

private theorem sameRow_readWrite_iff {p : Policy} :
    p.sameRow (readWrite role field) = true ↔
      p.role = some role ∧ p.read = true ∧ p.write = true := by
  simp [sameRow, readWrite, and_assoc]

/-- The deletion of a row that reads and writes leaves a role no row exactly if it had at most that
one. -/
theorem not_names_removeLast_iff :
    ¬Names (removeLast rows (readWrite role field)) role ↔ AtMostReadWrite rows role := by
  have hmem : ∀ p, p ∈ rows.filter (fun q ↦ q.role = some role) ↔ p ∈ rows ∧ p.role = some role :=
    fun _ ↦ by simp
  rw [names_removeLast_iff, not_and_not_right, names_iff_filter_ne_nil, IsOnly]
  constructor
  · intro honly
    by_cases hnil : rows.filter (fun q ↦ q.role = some role) = []
    · refine ⟨by simp [hnil], fun p hp hr ↦ absurd ((hmem p).mpr ⟨hp, hr⟩) ?_⟩
      rw [hnil]
      exact List.not_mem_nil
    · obtain ⟨q, hq, hsame⟩ := honly hnil
      refine ⟨by simp [hq], fun p hp hr ↦ ?_⟩
      obtain rfl : p = q := List.mem_singleton.mp (hq ▸ (hmem p).mpr ⟨hp, hr⟩)
      exact (sameRow_readWrite_iff.mp hsame).2
  · intro h hne
    obtain ⟨q, hq⟩ := List.length_eq_one_iff.mp
      (Nat.le_antisymm h.single (List.length_pos_iff.mpr hne))
    obtain ⟨hmember, hr⟩ := (hmem q).mp (hq ▸ List.mem_singleton_self q)
    exact ⟨q, hq, sameRow_readWrite_iff.mpr ⟨hr, h.marks q hmember hr⟩⟩

/-- A role is granted something exactly if a row that is worth keeping names it. -/
theorem exists_grant_iff :
    (∃ action, (role, action) ∈ Entry.grants (toEntries rows)) ↔
      Names (rows.filter isRetainable) role := by
  simp only [mem_grants_toEntries, Names, List.mem_filter]
  constructor
  · rintro ⟨action, p, hp, hr, ha⟩
    exact ⟨p, ⟨hp, (isRetainable_iff_allows hr).mpr ⟨action, ha⟩⟩, hr⟩
  · rintro ⟨p, ⟨hp, hkeep⟩, hr⟩
    obtain ⟨action, ha⟩ := (isRetainable_iff_allows hr).mp hkeep
    exact ⟨action, p, hp, hr, ha⟩

/-- The deletion of a row that reads and writes leaves a role no grant exactly if no other row of
the role granted anything. -/
theorem not_granted_removeLast_iff :
    (∀ action, (role, action) ∉
        Entry.grants (toEntries (removeLast rows (readWrite role field)))) ↔
      AtMostReadWrite (rows.filter isRetainable) role := by
  have hkeep : ∀ p : Policy, p.sameRow (readWrite role field) = true → p.isRetainable = true := by
    intro p hp
    obtain ⟨hr, hread, -⟩ := sameRow_readWrite_iff.mp hp
    exact (isRetainable_iff_allows hr).mpr ⟨Action.read, .inl ⟨hread, rfl⟩⟩
  rw [← not_exists, exists_grant_iff, ← removeLast_filter hkeep, not_names_removeLast_iff]

end Policy

/-- After a removal the permissions tab has no row of the user. -/
theorem SeriesEditor.not_names_removeTag {σ ν : Type} [AdminNode σ] [NoteSink ν]
    (e : SeriesEditor) (tag : UserTag) (desk : Desk σ ν) :
    ¬Policy.Names (e.removeTag tag desk).editor.rows tag.value := by
  rw [rows_removeTag]
  rintro ⟨p, hp, hr⟩
  exact of_decide_eq_true (List.mem_filter.mp hp).2 hr

namespace Wizard

variable {user : User} {w : Wizard} {role : String}

/-- A role has no row, and the request grants it nothing. -/
structure Revoked (w : Wizard) (role : String) : Prop where
  unnamed : ¬Policy.Names w.rows role
  ungranted : ∀ action, (role, action) ∉ Entry.grants w.request.entries

/-- What has no row is granted nothing. -/
theorem revoked_iff : w.Revoked role ↔ ¬Policy.Names w.rows role := by
  refine ⟨Revoked.unnamed, fun h ↦ ⟨h, fun action hg ↦ h ?_⟩⟩
  obtain ⟨p, hp, hr, -⟩ := Policy.mem_grants_toEntries.mp hg
  exact ⟨p, hp, hr⟩

/-- The rows that the wizard makes for roles outside the templates read and write. -/
theorem holdsOfMade_marks (user : User) :
    HoldsOfMade user fun p ↦ ∀ role, p.role = some role →
      (∀ t ∈ Template.custom :: Template.catalog, t.roleFor user.homeOrg ≠ some role) →
      p.read = true ∧ p.write = true where
  blank := nofun
  readWrite _ _ _ _ := ⟨rfl, rfl⟩
  template _ ht _ p hp _ hr hout :=
    absurd ((Policy.names_group_expand ht).mp ⟨p, hp, hr⟩) (hout _ ht)

/-- The removal of a tag revokes what the user was granted exactly if the user had at most one row,
and that one reads and writes; grants alone are revoked exactly if this is so of the rows that grant
something. The tag goes in any case. In a run without direct edits only the number of rows counts
for a role that no template has. The permissions tab leaves no row of the user. -/
theorem revoked_removeTag_iff {σ ν : Type} [AdminNode σ] [NoteSink ν] (user : User)
    (rolePage : Nat) (ops : List (WizardOp × Desk σ ν)) (tag : UserTag) :
    let w := (make user rolePage).performAll ops
    ((w.removeTag tag).Revoked tag.value ↔ Policy.AtMostReadWrite w.rows tag.value) ∧
      ((∀ action, (tag.value, action) ∉ Entry.grants (w.removeTag tag).request.entries) ↔
        Policy.AtMostReadWrite (w.rows.filter Policy.isRetainable) tag.value) ∧
      tag ∉ (w.removeTag tag).tags ∧
      ((∀ op ∈ ops, op.1.editsRows = false) →
        (∀ t ∈ Template.custom :: Template.catalog, t.roleFor user.homeOrg ≠ some tag.value) →
        ((w.removeTag tag).Revoked tag.value ↔
          (w.rows.filter fun p ↦ p.role = some tag.value).length ≤ 1)) ∧
      ∀ (e : SeriesEditor) (desk : Desk σ ν),
        ¬Policy.Names (e.removeTag tag desk).editor.rows tag.value := by
  intro w
  have hrevoked : (w.removeTag tag).Revoked tag.value ↔
      Policy.AtMostReadWrite w.rows tag.value :=
    revoked_iff.trans Policy.not_names_removeLast_iff
  refine ⟨hrevoked, Policy.not_granted_removeLast_iff, ?_, ?_,
    fun e desk ↦ e.not_names_removeTag tag desk⟩
  · intro hmem
    exact of_decide_eq_true (List.mem_filter.mp hmem).2 rfl
  · intro hops hout
    have hmarks := (holdsOfMade_marks user).performAll (remembers_make user rolePage)
      ((holdsOfMade_marks user).reset) hops
    rw [hrevoked]
    exact ⟨Policy.AtMostReadWrite.single,
      fun hsingle ↦ ⟨hsingle, fun p hp hr ↦ hmarks p hp tag.value hr hout⟩⟩

/-- A user of the directory. -/
def jane : UserTag := ⟨"jane", "Jane", "ROLE_USER_JANE"⟩

/-- Someone is picked after a template was applied. -/
def pickedOnce : List (WizardOp × Desk Store Board) :=
  let desk : Desk Store Board := ⟨Store.empty, Board.empty⟩
  [(.selectTemplate 5, desk), (.applyTemplate false, desk), (.addTag jane, desk)]

/-- A removal then revokes all that the user was granted. -/
theorem revoked_removeTag_iff_pickedOnce :
    let w := (make User.empty 100).performAll pickedOnce
    (∀ op ∈ pickedOnce, op.1.editsRows = false) ∧
      (∀ t ∈ Template.custom :: Template.catalog,
        t.roleFor User.empty.homeOrg ≠ some jane.value) ∧
      (w.rows.filter fun p ↦ p.role = some jane.value).length ≤ 1 ∧
      (w.removeTag jane).Revoked jane.value ∧ jane ∉ (w.removeTag jane).tags := by
  intro w
  have hops : ∀ op ∈ pickedOnce, op.1.editsRows = false := by decide
  have hout : ∀ t ∈ Template.custom :: Template.catalog,
      t.roleFor User.empty.homeOrg ≠ some jane.value := by decide
  have hsingle : (w.rows.filter fun p ↦ p.role = some jane.value).length ≤ 1 := by decide
  obtain ⟨-, -, htag, hrevoked, -⟩ := revoked_removeTag_iff User.empty 100 pickedOnce jane
  exact ⟨hops, hout, hsingle, (hrevoked hops hout).mpr hsingle, htag⟩

/-- Someone is picked twice. -/
def pickedTwice : List (WizardOp × Desk Store Board) :=
  let desk : Desk Store Board := ⟨Store.empty, Board.empty⟩
  [(.addTag jane, desk), (.addTag jane, desk)]

/-- A removal then leaves them a row that reads and writes. -/
theorem not_revoked_pickedTwice :
    ¬∀ (user : User) (rolePage : Nat) (ops : List (WizardOp × Desk Store Board)) (tag : UserTag),
      (((make user rolePage).performAll ops).removeTag tag).Revoked tag.value := by
  intro h
  refine (h User.empty 100 pickedTwice jane).unnamed ?_
  decide

end Wizard

end SeriesAcl
