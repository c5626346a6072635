import SeriesAcl.Notice.Board
import SeriesAcl.Proofs.Editing.Loading
import SeriesAcl.Proofs.Editing.Operations
import SeriesAcl.Proofs.Editing.TaggedRows

/-!
# The tags of the permissions tab

Tags are made from the rows when the rows are replaced and after a deletion that was saved; adding
and removing a tag changes them by hand. So every tag has a row throughout a run exactly if two
things never happen: a deletion that is not saved takes the only row of a tag, or a tag is removed
while another one has its role (`tagged_run_iff`). Two tags can share a role
(`not_tagged_sharedRole`).
-/

namespace SeriesAcl

/-- Whether an operation edits rows directly. -/
def SeriesOp.editsRows : SeriesOp → Bool
  | .editRows _ => true
  | _ => false

namespace SeriesEditor

/-- Every tag has a row of its role. -/
def Tagged (e : SeriesEditor) : Prop :=
  Policy.Carries e.rows e.tags

/-- Decided by a search for the row of each tag. -/
instance (e : SeriesEditor) : Decidable e.Tagged :=
  inferInstanceAs (Decidable (Policy.Carries e.rows e.tags))

/-! ### Tags made from rows -/

private theorem carries_tagRow {rows : List Policy} {tags : List UserTag}
    (h : Policy.Carries rows tags) (users : List UserTag) (p : Policy) :
    Policy.Carries (rows ++ [p]) (tagRow users tags p) := by
  have hkept := h.append [p]
  unfold tagRow
  cases hr : p.role with
  | none => exact hkept
  | some role =>
    dsimp only
    cases hu : users.find? fun u ↦ u.value == role with
    | none => exact hkept
    | some user =>
      dsimp only
      split
      · exact hkept
      · intro tag htag
        rcases List.mem_append.mp htag with htag | htag
        · exact hkept tag htag
        · have hvalue : user.value = role := by simpa using List.find?_some hu
          rw [List.mem_singleton.mp htag, hvalue]
          exact Policy.names_append.mpr (.inr (Policy.names_singleton.mpr hr))

/-- Every user who is made a tag has a row. -/
theorem carries_tagsFor (rows : List Policy) (users : List UserTag) :
    Policy.Carries rows (tagsFor rows users) := by
  induction rows using List.reverseRecOn with
  | nil => exact fun _ h ↦ absurd h List.not_mem_nil
  | append_singleton rest p ih =>
    rw [tagsFor, List.foldl_append]
    exact carries_tagRow ih users p

private theorem tagged_replaceRows (e : SeriesEditor) (entries : List Entry) :
    (e.replaceRows entries).Tagged := by
  unfold replaceRows
  dsimp only
  split <;> exact carries_tagsFor _ e.users

variable {σ ν : Type} [AdminNode σ] [NoteSink ν]

/-! ### Saving and loading -/

/-- A save that succeeds makes the tags again if it is to; all other saves leave them. -/
theorem tags_save (e : SeriesEditor) (reload overrideEvents : Bool) (desk : Desk σ ν) :
    let turn := e.save reload overrideEvents desk
    turn.answer = .ok .saved ∧
        turn.editor.tags = (if reload then tagsFor e.rows e.users else e.tags) ∨
      turn.answer ≠ .ok .saved ∧ turn.editor.tags = e.tags := by
  unfold save
  dsimp only
  split
  · split
    · exact .inr ⟨nofun, rfl⟩
    · cases reload <;> exact .inl ⟨rfl, rfl⟩
  · exact .inr ⟨nofun, rfl⟩

private theorem Tagged.save {e : SeriesEditor} (h : e.Tagged) (reload overrideEvents : Bool)
    (desk : Desk σ ν) : (e.save reload overrideEvents desk).editor.Tagged := by
  unfold Tagged
  rw [(e.agree_save reload overrideEvents desk).rows]
  rcases e.tags_save reload overrideEvents desk with ⟨-, htags⟩ | ⟨-, htags⟩
  · rw [htags]
    cases reload with
    | true => exact carries_tagsFor e.rows e.users
    | false => exact h
  · rw [htags]
    exact h

private theorem tagged_changeEntries (e : SeriesEditor) (entries : List Entry) (loading : Bool)
    (desk : Desk σ ν) : (e.changeEntries entries loading desk).editor.Tagged := by
  cases loading with
  | true => exact e.tagged_replaceRows entries
  | false => exact (e.tagged_replaceRows entries).save false false desk

/-- A load shows a list with tags made from its rows, or leaves rows and tags as they were. -/
theorem Tagged.load {e : SeriesEditor} (h : e.Tagged) (desk : Desk σ ν) :
    (e.load desk).editor.Tagged := by
  have hknown : (e.introduced desk.node).Tagged := by
    obtain ⟨org, mode, users, hknown⟩ := e.exists_introduced_eq desk.node
    rw [hknown]
    exact h
  have hpick : ∀ (e' : SeriesEditor) (desk : Desk σ ν), e'.Tagged →
      (e'.loadPickers desk).editor.Tagged := by
    intro e' desk h'
    obtain ⟨actions, roles, node, hpick⟩ := e'.exists_loadPickers_eq desk
    rw [hpick]
    exact h'
  rw [load_eq]
  split
  · exact hknown
  · exact hpick _ _ hknown
  · next block desk' _ =>
    cases block.entries with
    | error error => exact hknown
    | ok entries => exact hpick _ _ (tagged_changeEntries _ entries true desk')

/-! ### Operations -/

/-- Whether an operation leaves every tag its row: a deletion is saved or takes the only row of no
tag, no other tag has the role of one that is removed, and rows that are edited still carry all
tags. -/
def KeepsTags (e : SeriesEditor) (op : SeriesOp) (desk : Desk σ ν) : Prop :=
  match op with
  | .deleteRow target =>
    (e.deleteRow target desk).answer = .ok .saved ∨
      ∀ tag ∈ e.tags, ¬Policy.IsOnly target e.rows tag.value
  | .removeTag tag => ∀ other ∈ e.tags, other.value = tag.value → other = tag
  | .editRows edit => Policy.Carries (edit e.rows) e.tags
  | _ => True

private theorem tagged_deleteRow_iff {e : SeriesEditor} (h : e.Tagged) (target : Policy)
    (desk : Desk σ ν) :
    (e.deleteRow target desk).editor.Tagged ↔ e.KeepsTags (.deleteRow target) desk := by
  have hrows : (e.deleteRow target desk).editor.rows = Policy.removeLast e.rows target :=
    (agree_save (e.editRows fun rows ↦ Policy.removeLast rows target) true false desk).rows
  rcases tags_save (e.editRows fun rows ↦ Policy.removeLast rows target) true false desk with
    ⟨hsaved, htags⟩ | ⟨hno, htags⟩
  · refine iff_of_true ?_ (.inl hsaved)
    show Policy.Carries (e.deleteRow target desk).editor.rows (e.deleteRow target desk).editor.tags
    rw [hrows, deleteRow, htags]
    exact carries_tagsFor _ e.users
  · have hno' : (e.deleteRow target desk).answer ≠ .ok .saved := hno
    rw [KeepsTags, or_iff_right hno', ← Policy.Carries.removeLast_iff h]
    show Policy.Carries (e.deleteRow target desk).editor.rows _ ↔ _
    rw [hrows, deleteRow, htags]
    rfl

/-- A tag that is removed takes every row of its role along. -/
theorem rows_removeTag (e : SeriesEditor) (tag : UserTag) (desk : Desk σ ν) :
    (e.removeTag tag desk).editor.rows = e.rows.filter fun p ↦ p.role ≠ some tag.value :=
  (agree_save _ false false desk).rows

private theorem tagged_removeTag_iff {e : SeriesEditor} (h : e.Tagged) (tag : UserTag)
    (desk : Desk σ ν) :
    (e.removeTag tag desk).editor.Tagged ↔ e.KeepsTags (.removeTag tag) desk := by
  have hcarries : Policy.Carries (e.rows.filter fun p ↦ p.role ≠ some tag.value)
      (e.tags.filter fun t ↦ t ≠ tag) ↔ e.KeepsTags (.removeTag tag) desk := by
    constructor
    · intro hc other ho hvalue
      by_contra hne
      obtain ⟨p, hp, hr⟩ := hc other (List.mem_filter.mpr ⟨ho, decide_eq_true hne⟩)
      have hother := of_decide_eq_true (List.mem_filter.mp hp).2
      rw [hr, hvalue] at hother
      exact hother rfl
    · intro hkeeps other ho
      obtain ⟨ho, hne⟩ := List.mem_filter.mp ho
      obtain ⟨p, hp, hr⟩ := h other ho
      refine ⟨p, List.mem_filter.mpr ⟨hp, decide_eq_true fun hrole ↦ ?_⟩, hr⟩
      exact of_decide_eq_true hne (hkeeps other ho (Option.some.inj (hr.symm.trans hrole)))
  have htags : (e.removeTag tag desk).editor.tags = e.tags.filter fun t ↦ t ≠ tag := by
    rcases tags_save _ false false desk with ⟨-, htags⟩ | ⟨-, htags⟩ <;> exact htags
  rw [← hcarries, Tagged, rows_removeTag, htags]

/-- After an operation every tag still has its row exactly if the operation leaves it. -/
theorem tagged_perform_iff {e : SeriesEditor} (h : e.Tagged) (op : SeriesOp) (desk : Desk σ ν) :
    (e.perform op desk).editor.Tagged ↔ e.KeepsTags op desk := by
  cases op with
  | deleteRow target => exact tagged_deleteRow_iff h target desk
  | removeTag tag => exact tagged_removeTag_iff h tag desk
  | editRows edit => exact Iff.rfl
  | load => exact iff_true_intro (h.load desk)
  | changeEntries entries loading =>
    exact iff_true_intro (e.tagged_changeEntries entries loading desk)
  | switchTemplate id overrideEvents =>
    refine iff_true_intro ?_
    show (e.switchTemplate id overrideEvents desk).editor.Tagged
    cases ht : Template.byId? id with
    | none =>
      rw [e.switchTemplate_eq_error ht]
      exact h
    | some t =>
      rw [e.switchTemplate_eq ht]
      exact (tagged_replaceRows _ _).save false overrideEvents desk
  | applyManaged id =>
    refine iff_true_intro ?_
    show (e.applyManaged id desk).editor.Tagged
    unfold applyManaged
    split
    · exact h
    · exact tagged_changeEntries _ _ _ _
  | addRow => exact iff_true_intro (h.append [Policy.blank none Policy.seriesField])
  | addTag tag =>
    refine iff_true_intro (Tagged.save ?_ false false desk)
    exact h.concat_tag tag Policy.seriesField
  | rowChanged role =>
    refine iff_true_intro ?_
    show (e.rowChanged role desk).editor.Tagged
    unfold rowChanged
    split
    · exact h.save true false desk
    · exact h
  | save reload overrideEvents => exact iff_true_intro (h.save reload overrideEvents desk)
  | reloadTags => exact iff_true_intro (carries_tagsFor e.rows e.users)
  | setFlags flags => exact iff_true_intro h
  | moreRoles search => exact iff_true_intro h

/-! ### Runs -/

/-- An editor after some operations, each at the desk that it finds. -/
def performAll (e : SeriesEditor) (ops : List (SeriesOp × Desk σ ν)) : SeriesEditor :=
  ops.foldl (fun e op ↦ (e.perform op.1 op.2).editor) e

/-- Throughout a run every tag has a row of its role exactly if no deletion that is not saved takes
the only row of a tag, no tag is removed while another has its role, and no direct edit takes the
rows of a tag. Node and notes may change as they like between the operations. -/
theorem tagged_run_iff (series : String) (rolePage : Nat) (ops : List (SeriesOp × Desk σ ν)) :
    (∀ before after, ops = before ++ after →
        ((make series rolePage).performAll before).Tagged) ↔
      ∀ before op after, ops = before ++ op :: after →
        ((make series rolePage).performAll before).KeepsTags op.1 op.2 := by
  have hmake : (make series rolePage).Tagged := fun _ h ↦ absurd h List.not_mem_nil
  exact holds_throughout_iff Tagged (fun _ op h ↦ tagged_perform_iff h op.1 op.2) hmake ops

/-- Two people of one role become tags, and one of them is removed. -/
def sharedRole : List (SeriesOp × Desk Store Board) :=
  let desk : Desk Store Board := ⟨Store.privateStore, Board.empty⟩
  [(.addTag ⟨"a", "User A", "ROLE_USER"⟩, desk), (.addTag ⟨"b", "User B", "ROLE_USER"⟩, desk),
    (.removeTag ⟨"a", "User A", "ROLE_USER"⟩, desk)]

/-- The row of a person who is still a tag is gone. -/
theorem not_tagged_sharedRole :
    ¬∀ (series : String) (rolePage : Nat) (ops : List (SeriesOp × Desk Store Board)),
      (∀ op ∈ ops, op.1.editsRows = false) → ((make series rolePage).performAll ops).Tagged := by
  intro h
  have htagged := h "s" 100 sharedRole (by decide)
  revert htagged
  decide

end SeriesEditor

end SeriesAcl
