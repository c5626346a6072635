import SeriesAcl.Notice.Board
import SeriesAcl.Proofs.Access.Switching
import SeriesAcl.Proofs.Editing.ScreenOperations
import SeriesAcl.Proofs.Editing.SelectedTags
import SeriesAcl.Proofs.Editing.Sharing
import SeriesAcl.Proofs.Editing.WizardRows

/-!
# The roles of recorded lists

Which roles the lists name that editors save. A list names the roles of the rows that it was written
from (`mentions_toEntries_iff`), and the rows have theirs from the rows before, from lists that were
read, from the templates and from what an operation brings along (`names_perform`). So a role that
nobody brings along stays out of every list (`Avoids.run`). The empty text is such a role, but a row
that has it is saved like any other (`namesRoles_run_iff`, `not_namesRoles_emptyRole`).
-/

namespace SeriesAcl

/-- Some entry is about a role. -/
def Entry.Mentions (entries : List Entry) (role : String) : Prop :=
  ∃ e ∈ entries, e.role = role

/-- Decided by a search through the entries. -/
instance (entries : List Entry) (role : String) : Decidable (Entry.Mentions entries role) :=
  inferInstanceAs (Decidable (∃ e ∈ entries, e.role = role))

/-! ### Lists and their rows -/

namespace Policy

variable {field role : String} {rows : List Policy} {entries : List Entry}

/-- The rows of a list name the roles that its entries are about. -/
theorem names_group : Names (group entries field) role ↔ Entry.Mentions entries role := by
  constructor
  · rintro ⟨p, hp, hr⟩
    obtain ⟨e, he, hpe⟩ := exists_entry_of_mem_group hp
    exact ⟨e, he, Option.some.inj (hpe.symm.trans hr)⟩
  · rintro ⟨e, he, rfl⟩
    exact exists_row_of_mem field he

/-- A row that adds to a list has a role, and what it adds is about that role. -/
theorem exists_entry_of_toEntries_ne_nil {p : Policy} (h : toEntries [p] ≠ []) :
    ∃ e ∈ toEntries [p], p.role = some e.role := by
  obtain ⟨e, he⟩ := List.exists_mem_of_ne_nil _ h
  obtain ⟨-, q, hq, hr, -⟩ := mem_toEntries.mp he
  obtain rfl := List.mem_singleton.mp hq
  exact ⟨e, he, hr⟩

/-- A list that every row adds to is about the roles of the rows. -/
theorem mentions_toEntries_iff (h : ∀ p ∈ rows, toEntries [p] ≠ []) :
    Entry.Mentions (toEntries rows) role ↔ Names rows role := by
  constructor
  · rintro ⟨e, he, rfl⟩
    obtain ⟨-, p, hp, hr, -⟩ := mem_toEntries.mp he
    exact ⟨p, hp, hr⟩
  · rintro ⟨p, hp, hr⟩
    obtain ⟨e, he, hpe⟩ := exists_entry_of_toEntries_ne_nil (h p hp)
    refine ⟨e, ?_, Option.some.inj (hpe.symm.trans hr)⟩
    rw [toEntries_eq_flatMap_toEntries]
    exact List.mem_flatMap.mpr ⟨p, hp, he⟩

/-- A switched list is about roles of the rows and of the template. -/
theorem names_or_mentions_of_switch {t : Template} {org : Option String} {flags : Flags}
    (h : Entry.Mentions (switchEntries rows t org flags) role) :
    Names rows role ∨ Entry.Mentions (t.expand org flags) role := by
  obtain ⟨e, he, rfl⟩ := h
  rcases List.mem_append.mp he with he | he
  · obtain ⟨p, hp, hkept⟩ := List.mem_flatMap.mp he
    exact .inl ⟨p, hp, (role_of_mem_keptEntries hkept).1⟩
  · exact .inr ⟨e, he, rfl⟩

end Policy

/-! ### Roles of the templates -/

/-- No template is about a role, whoever asks for it. -/
def Template.Unmentioned (role : String) : Prop :=
  ∀ t ∈ custom :: catalog, ∀ org flags, ¬Entry.Mentions (t.expand org flags) role

/-- The role of a template has a name, with its placeholder replaced or not. -/
theorem Template.roleFor_ne_empty {t : Template} (ht : t ∈ catalog) (org : Option String) :
    t.roleFor org ≠ some "" := by
  rcases role_of_mem_catalog ht with h | h | h | h | h
  case inr.inr.inl =>
    cases org with
    | none =>
      rw [roleFor, h]
      decide
    | some o =>
      rw [roleFor, h, Option.map_some, substituteOrg_orgRole]
      intro hempty
      have hlist := congrArg String.toList (Option.some.inj hempty)
      simp [Role.orgMember] at hlist
  all_goals
    rw [roleFor_fixed h (by decide) org]
    decide

/-- The templates are about roles with names. -/
theorem Template.unmentioned_empty : Unmentioned "" := by
  intro t ht org flags h
  have hrole : t.roleFor org = some "" := (exists_mem_expand_iff ht).mp h
  rcases List.mem_cons.mp ht with rfl | ht
  · cases hrole
  · exact roleFor_ne_empty ht org hrole

/-! ### Where roles come from -/

/-- Whether an operation brings a role along: in rows that are edited, as a user of the directory,
or in a list that is handed over. -/
def SeriesOp.Brings (role : String) (rows : List Policy) : SeriesOp → Prop
  | .editRows edit => Policy.Names (edit rows) role
  | .addTag tag => tag.value = role
  | .changeEntries entries _ => Entry.Mentions entries role
  | _ => False

/-- A managed list that is answered is one of the store. -/
theorem Store.mem_managed_of_answer {s : Store} {id : Int} {m : ManagedAcl}
    (h : (Store.managedAcl id s).1 = .ok m) : m ∈ s.managed := by
  rw [managedAcl_eq] at h
  dsimp only at h
  split at h
  · cases h
  · split at h
    · next hfind =>
      cases h
      exact List.mem_of_find?_eq_some hfind
    · cases h

namespace SeriesEditor

/-- Where the rows may have a role from after an operation. -/
inductive Source (e : SeriesEditor) (op : SeriesOp) (s : Store) (role : String) : Prop where
  | rows (h : Policy.Names e.rows role)
  | brought (h : op.Brings role e.rows)
  | list {block : SeriesAccess} {entries : List Entry} (hread : s.Readable e.series block entries)
    (h : Entry.Mentions entries role)
  | managed {m : ManagedAcl} (hm : m ∈ s.managed) (h : Entry.Mentions m.entries role)
  | template {t : Template} (ht : t ∈ Template.custom :: Template.catalog)
    (h : Entry.Mentions (t.expand e.org e.flags) role)

variable {ν : Type} [NoteSink ν]

/-- A save leaves the rows as they are. -/
theorem rows_save (e : SeriesEditor) (reload overrideEvents : Bool) (desk : Desk Store ν) :
    (e.save reload overrideEvents desk).editor.rows = e.rows :=
  (e.agree_save reload overrideEvents desk).rows

private theorem rows_changeEntries (e : SeriesEditor) (entries : List Entry) (loading : Bool)
    (desk : Desk Store ν) :
    (e.changeEntries entries loading desk).editor.rows =
      Policy.group entries Policy.seriesField := by
  cases loading with
  | true => exact e.rows_replaceRows entries
  | false =>
    exact (rows_save (e.replaceRows entries) false false desk).trans (e.rows_replaceRows entries)

omit [NoteSink ν] in
private theorem rows_signedIn (e : SeriesEditor) (s : Store) : (e.signedIn s).rows = e.rows := by
  unfold signedIn
  split <;> rfl

/-- A role that the rows name after an operation has a source. -/
theorem names_perform {e : SeriesEditor} {op : SeriesOp} {desk : Desk Store ν} {role : String}
    (h : Policy.Names (e.perform op desk).editor.rows role) : e.Source op desk.node role := by
  -- Where an operation ends in a save, the rows are those that it saves.
  cases op with
  | load =>
    rcases (e.load_cases desk).2 with ⟨block, entries, hread, -, hagree, -⟩ | ⟨-, -, hagree⟩
    · have hrows : (e.load desk).editor.rows = Policy.group entries Policy.seriesField :=
        hagree.rows.trans (rows_replaceRows _ entries)
      exact .list hread (Policy.names_group.mp (hrows ▸ h))
    · have hrows : (e.load desk).editor.rows = e.rows :=
        hagree.rows.trans (e.rows_signedIn desk.node)
      exact .rows (hrows ▸ h)
  | changeEntries entries loading =>
    exact .brought (Policy.names_group.mp (e.rows_changeEntries entries loading desk ▸ h))
  | switchTemplate id overrideEvents =>
    change Policy.Names (e.switchTemplate id overrideEvents desk).editor.rows role at h
    cases ht : Template.byId? id with
    | none =>
      rw [e.switchTemplate_eq_error ht] at h
      exact .rows h
    | some t =>
      rw [e.switchTemplate_eq ht, rows_save, switched, rows_replaceRows, Policy.names_group] at h
      rcases Policy.names_or_mentions_of_switch h with h | h
      · exact .rows h
      · exact .template (Template.mem_of_byId? ht) h
  | applyManaged id =>
    change Policy.Names (e.applyManaged id desk).editor.rows role at h
    rw [applyManaged_eq] at h
    split at h
    · exact .rows h
    · next m hm =>
      rw [rows_changeEntries, Policy.names_group] at h
      exact .managed (Store.mem_managed_of_answer hm) h
  | setFlags flags => exact .rows h
  | addRow =>
    rcases Policy.names_append.mp h with h | h
    · exact .rows h
    · cases Policy.names_singleton.mp h
  | editRows edit => exact .brought h
  | deleteRow target =>
    change Policy.Names (e.deleteRow target desk).editor.rows role at h
    unfold deleteRow at h
    rw [rows_save] at h
    exact .rows (Policy.names_removeLast_iff.mp h).1
  | addTag tag =>
    change Policy.Names (e.addTag tag desk).editor.rows role at h
    unfold addTag at h
    rw [rows_save] at h
    rcases Policy.names_append.mp h with h | h
    · exact .rows h
    · exact .brought (Option.some.inj (Policy.names_singleton.mp h))
  | removeTag tag =>
    change Policy.Names (e.removeTag tag desk).editor.rows role at h
    rw [rows_removeTag] at h
    obtain ⟨p, hp, hr⟩ := h
    exact .rows ⟨p, (List.mem_filter.mp hp).1, hr⟩
  | rowChanged role =>
    change Policy.Names (e.rowChanged role desk).editor.rows _ at h
    unfold rowChanged at h
    split at h
    · exact .rows (e.rows_save true false desk ▸ h)
    · exact .rows h
  | reloadTags => exact .rows h
  | save reload overrideEvents => exact .rows (e.rows_save reload overrideEvents desk ▸ h)
  | moreRoles search => exact .rows h

end SeriesEditor

/-! ### Roles in a run -/

namespace Workplace

variable {ι ν : Type} [NoteSink ν]

/-- A role stands in nothing that an editor may read: not in its rows, not in the list of its series
and not in a managed list. -/
structure Avoids (w : Workplace ι ν) (role : String) : Prop where
  rows : ∀ i, ¬Policy.Names (w.editors i).rows role
  lists : ∀ i block entries, w.desk.node.access.get? (w.editors i).series = some block →
    block.entries = .ok entries → ¬Entry.Mentions entries role
  managed : ∀ m ∈ w.desk.node.managed, ¬Entry.Mentions m.entries role

/-- The operation is answered with `saved`, and then a row of the editor has the role. -/
def SavesRole (role : Option String) (w : Workplace ι ν) (i : ι) (op : SeriesOp) : Prop :=
  (w.turn i op).answer = .ok (some .saved) ∧ ∃ p ∈ (w.turn i op).editor.rows, p.role = role

/-- The operation brings a role along. -/
def BringsRole (role : String) (w : Workplace ι ν) (i : ι) (op : SeriesOp) : Prop :=
  op.Brings role (w.editors i).rows

variable [DecidableEq ι]

/-- Some operation of a run has a property when it is carried out. -/
def Happens (w : Workplace ι ν) (events : List (WorkplaceEvent ι))
    (property : Workplace ι ν → ι → SeriesOp → Prop) : Prop :=
  ∃ earlier i op later, events = earlier ++ .act i op :: later ∧ property (w.run earlier) i op

variable {w : Workplace ι ν} {events : List (WorkplaceEvent ι)} {role : String}
  {property : Workplace ι ν → ι → SeriesOp → Prop}

private theorem not_happens_nil : ¬w.Happens [] property := by
  rintro ⟨earlier, i, op, later, h, -⟩
  exact List.append_ne_nil_of_right_ne_nil _ (List.cons_ne_nil _ _) h.symm

private theorem happens_concat {event : WorkplaceEvent ι} :
    w.Happens (events ++ [event]) property ↔
      w.Happens events property ∨ ∃ i op, event = .act i op ∧ property (w.run events) i op := by
  constructor
  · rintro ⟨earlier, i, op, later, h, hp⟩
    rcases List.eq_nil_or_concat later with rfl | ⟨later, last, rfl⟩
    · obtain ⟨rfl, hevent⟩ := List.append_inj' h rfl
      exact .inr ⟨i, op, List.singleton_inj.mp hevent, hp⟩
    · rw [List.concat_eq_append, ← List.cons_append, ← List.append_assoc] at h
      exact .inl ⟨earlier, i, op, later, (List.append_inj' h rfl).1, hp⟩
  · rintro (⟨earlier, i, op, later, rfl, hp⟩ | ⟨i, op, rfl, hp⟩)
    · exact ⟨earlier, i, op, later ++ [event], by simp, hp⟩
    · exact ⟨events, i, op, [], rfl, hp⟩

omit [NoteSink ν] [DecidableEq ι] in
/-- A save of an editor is about the roles of its rows. -/
theorem mentions_iff_of_savedBy {e : SeriesEditor} {op : SeriesOp} {save : String × AccessUpdate}
    (h : SavedBy e op save) : Entry.Mentions save.2.entries role ↔ Policy.Names e.rows role := by
  rw [h.entries]
  exact Policy.mentions_toEntries_iff h.rows

/-- A role is in some save of a run exactly when the rows of an editor have it that are saved. -/
theorem exists_saves_mentions (w : Workplace ι ν) (events : List (WorkplaceEvent ι)) :
    ∃ saves, (w.run events).desk.node.savedAccess = w.desk.node.savedAccess ++ saves ∧
      ∀ role, (∃ save ∈ saves, Entry.Mentions save.2.entries role) ↔
        w.Happens events (SavesRole (some role)) := by
  -- From the last event backwards: only a turn that is answered with `saved` adds a save.
  induction events using List.reverseRecOn with
  | nil =>
    refine ⟨[], (List.append_nil _).symm, fun role ↦ ⟨?_, fun h ↦ absurd h not_happens_nil⟩⟩
    rintro ⟨save, h, -⟩
    cases h
  | append_singleton events event ih =>
    obtain ⟨saves, hrecord, hsaves⟩ := ih
    simp only [run_concat, happens_concat, ← hsaves]
    cases event with
    | fail operations =>
      refine ⟨saves, hrecord, fun role ↦ (or_iff_left ?_).symm⟩
      rintro ⟨i, op, h, -⟩
      cases h
    | act i op =>
      rcases (w.run events).turn_cases i op with
        ⟨hanswer, -, series, update, hsaved, hnode⟩ | ⟨hanswer, hreads⟩
      · refine ⟨saves ++ [(series, update)], ?_, fun role ↦ ?_⟩
        · show ((w.run events).turn i op).desk.node.savedAccess = _
          rw [hnode, ← List.append_assoc, ← hrecord]
          rfl
        · simp only [List.mem_append, List.mem_singleton, or_and_right, exists_or, exists_eq_left,
            mentions_iff_of_savedBy hsaved]
          refine or_congr_right ⟨fun h ↦ ⟨i, op, rfl, hanswer, h⟩, ?_⟩
          rintro ⟨i, op, h, -, hnames⟩
          cases h
          exact hnames
      · refine ⟨saves, hreads.lists_eq.1.trans hrecord, fun role ↦ (or_iff_left ?_).symm⟩
        rintro ⟨i, op, h, hsaved, -⟩
        cases h
        exact hanswer hsaved

/-- A row without a role keeps the list from being saved. -/
theorem not_happens_savesRole_none : ¬w.Happens events (SavesRole none) := by
  rintro ⟨earlier, i, op, later, -, hanswer, p, hp, hr⟩
  rcases (w.run earlier).turn_cases i op with ⟨-, -, series, update, hsaved, -⟩ | ⟨hne, -⟩
  · obtain ⟨e, -, he⟩ := Policy.exists_entry_of_toEntries_ne_nil (hsaved.rows p hp)
    cases hr.symm.trans he
  · exact hne hanswer

private theorem editors_act_self (w : Workplace ι ν) (i : ι) (op : SeriesOp) :
    (w.step (.act i op)).editors i = (w.turn i op).editor :=
  Function.update_self ..

private theorem editors_act_of_ne (w : Workplace ι ν) {i j : ι} (h : j ≠ i) (op : SeriesOp) :
    (w.step (.act i op)).editors j = w.editors j :=
  Function.update_of_ne h ..

private theorem series_act (w : Workplace ι ν) (i j : ι) (op : SeriesOp) :
    ((w.step (.act i op)).editors j).series = (w.editors j).series := by
  by_cases hj : j = i
  · subst hj
    rw [editors_act_self]
    exact SeriesEditor.series_perform _ _ _
  · rw [w.editors_act_of_ne hj]

omit [DecidableEq ι] in
private theorem managed_turn (w : Workplace ι ν) (i : ι) (op : SeriesOp) :
    (w.turn i op).desk.node.managed = w.desk.node.managed := by
  rcases w.turn_cases i op with ⟨-, -, series, update, -, hnode⟩ | ⟨-, hreads⟩
  · rw [hnode]
    rfl
  · rw [hreads]

namespace Avoids

omit [DecidableEq ι] in
/-- A role that an operation does not bring along is in no row after it. -/
theorem rows_turn (h : w.Avoids role) (ht : Template.Unmentioned role) {i : ι} {op : SeriesOp}
    (hop : ¬BringsRole role w i op) : ¬Policy.Names (w.turn i op).editor.rows role := by
  intro hnames
  cases SeriesEditor.names_perform hnames with
  | rows hr => exact h.rows i hr
  | brought hb => exact hop hb
  | list hread hm => exact h.lists i _ _ hread.found hread.decoded hm
  | managed hm hr => exact h.managed _ hm hr
  | template hmem hr => exact ht _ hmem _ _ hr

omit [DecidableEq ι] in
/-- A role that is in no row after an operation is in no list of a series either. -/
theorem lists_turn (h : w.Avoids role) {i : ι} {op : SeriesOp}
    (hrows : ¬Policy.Names (w.turn i op).editor.rows role) (j : ι) {block : SeriesAccess}
    {entries : List Entry}
    (hblock : (w.turn i op).desk.node.access.get? (w.editors j).series = some block)
    (hentries : block.entries = .ok entries) : ¬Entry.Mentions entries role := by
  rcases w.turn_cases i op with ⟨-, -, series, update, hsaved, hnode⟩ | ⟨-, hreads⟩
  · rw [hnode] at hblock
    by_cases hsame : series = (w.editors j).series
    · -- The list is the one just saved, so it is about the roles of the rows.
      obtain ⟨written, hwritten, hupdate⟩ := w.desk.node.exists_block_record series update
      rw [hsame] at hwritten hblock
      cases hwritten.symm.trans hblock
      cases hentries.symm.trans hupdate
      exact fun hm ↦ hrows ((mentions_iff_of_savedBy hsaved).mp hm)
    · rw [Store.get?_record, if_neg hsame] at hblock
      exact h.lists j block entries hblock hentries
  · rw [hreads.lists_eq.2] at hblock
    exact h.lists j block entries hblock hentries

/-- An operation that does not bring a role along keeps it out. -/
theorem act (h : w.Avoids role) (ht : Template.Unmentioned role) {i : ι} {op : SeriesOp}
    (hop : ¬BringsRole role w i op) : (w.step (.act i op)).Avoids role where
  rows j := by
    by_cases hj : j = i
    · subst hj
      rw [editors_act_self]
      exact h.rows_turn ht hop
    · rw [w.editors_act_of_ne hj]
      exact h.rows j
  lists j block entries hblock hentries := by
    rw [series_act] at hblock
    exact h.lists_turn (h.rows_turn ht hop) j hblock hentries
  managed m hm := by
    have hsame : (w.step (.act i op)).desk.node.managed = w.desk.node.managed := w.managed_turn i op
    rw [hsame] at hm
    exact h.managed m hm

/-- A role that nobody brings along stays out of the rows and out of the lists. -/
theorem run (h : w.Avoids role) (ht : Template.Unmentioned role)
    (hno : ¬w.Happens events (BringsRole role)) : (w.run events).Avoids role := by
  induction events using List.reverseRecOn with
  | nil => exact h
  | append_singleton events event ih =>
    obtain ⟨hbefore, hlast⟩ := not_or.mp (happens_concat.not.mp hno)
    rw [run_concat]
    cases event with
    | fail operations => exact ⟨(ih hbefore).rows, (ih hbefore).lists, (ih hbefore).managed⟩
    | act i op => exact (ih hbefore).act ht fun hop ↦ hlast ⟨i, op, rfl, hop⟩

/-- A role that nobody brings along is in no row that is saved. -/
theorem not_savesRole (h : w.Avoids role) (ht : Template.Unmentioned role)
    (hno : ¬w.Happens events (BringsRole role)) : ¬w.Happens events (SavesRole (some role)) := by
  rintro ⟨earlier, i, op, later, rfl, -, hnames⟩
  have havoids : (w.run (earlier ++ [.act i op])).Avoids role := by
    refine h.run ht ?_
    rintro ⟨before, j, o, after, heq, hb⟩
    exact hno ⟨before, j, o, after ++ later, by simpa using congrArg (· ++ later) heq, hb⟩
  have hrows := havoids.rows i
  rw [run_concat, editors_act_self] at hrows
  exact hrows hnames

end Avoids

/-- When editors start from lists whose roles have names, every entry of every save names a role
exactly if no list is saved while a row has the empty text for its role. A row that has no role at
all keeps its list from being saved. And while no operation brings the empty role along, in edited
rows, with a user or in a list, every entry of every save names a role. -/
theorem namesRoles_run_iff (w : Workplace ι ν) (h : w.Avoids "")
    (events : List (WorkplaceEvent ι)) :
    ∃ saves, (w.run events).desk.node.savedAccess = w.desk.node.savedAccess ++ saves ∧
      ((∀ save ∈ saves, ∀ entry ∈ save.2.entries, entry.role ≠ "") ↔
        ¬w.Happens events (SavesRole (some ""))) ∧
      ¬w.Happens events (SavesRole none) ∧
      (¬w.Happens events (BringsRole "") →
        ∀ save ∈ saves, ∀ entry ∈ save.2.entries, entry.role ≠ "") := by
  obtain ⟨saves, hrecord, hsaves⟩ := w.exists_saves_mentions events
  have hnamed : (∀ save ∈ saves, ∀ entry ∈ save.2.entries, entry.role ≠ "") ↔
      ¬w.Happens events (SavesRole (some "")) := by
    rw [← hsaves]
    simp [Entry.Mentions]
  exact ⟨saves, hrecord, hnamed, not_happens_savesRole_none,
    fun hno ↦ hnamed.mpr (h.not_savesRole Template.unmentioned_empty hno)⟩

/-- One editor at a desk. -/
def sole (e : SeriesEditor) (desk : Desk Store ν) : Workplace Unit ν :=
  ⟨fun _ ↦ e, desk⟩

/-- The desk of a private series. -/
def privateSeriesDesk : Desk Store Board :=
  ⟨Store.privateStore, Board.empty⟩

/-- A new row is given the empty role and a mark, which is no reason to save yet, and then the list
is saved. -/
def emptyRole : List (WorkplaceEvent Unit) :=
  [.act () .load, .act () .addRow,
    .act () (.editRows fun rows ↦
      rows.dropLast ++ [⟨some "", true, false, Policy.seriesField, []⟩]),
    .act () (.rowChanged (some "")), .act () (.save false false)]

private theorem avoids_privateSeries :
    (sole (SeriesEditor.make "s" 100) privateSeriesDesk).Avoids "" where
  rows _ := by simp [sole, SeriesEditor.make, Policy.Names]
  lists _ block entries hblock hentries := by
    have hread := Store.readable_putList (s := Store.empty) (by decide) "s" Store.privateList false
    obtain ⟨-, rfl⟩ := hread.unique ⟨hread.allowed, hblock, hentries⟩
    decide
  managed := by decide

/-- A user of the directory is given a row. -/
def userAdded : List (WorkplaceEvent Unit) :=
  [.act () .load, .act () (.addTag ⟨"jane", "Jane", "ROLE_USER_JANE"⟩)]

/-- The directory gives the user a role, so every saved entry names one. -/
theorem namesRoles_run_iff_userAdded :
    let w := sole (SeriesEditor.make "s" 100) privateSeriesDesk
    w.Avoids "" ∧ ¬w.Happens userAdded (BringsRole "") ∧
      ∃ saves, (w.run userAdded).desk.node.savedAccess = w.desk.node.savedAccess ++ saves ∧
        ∀ save ∈ saves, ∀ entry ∈ save.2.entries, entry.role ≠ "" := by
  intro w
  have hno : ¬w.Happens userAdded (BringsRole "") := by
    have hsplit : userAdded = ([] ++ [.act () .load]) ++
        [.act () (.addTag ⟨"jane", "Jane", "ROLE_USER_JANE"⟩)] := rfl
    rw [hsplit, happens_concat, happens_concat]
    rintro ((h | ⟨i, op, h, hb⟩) | ⟨i, op, h, hb⟩)
    · exact not_happens_nil h
    · cases h
      exact hb
    · cases h
      exact absurd (show "ROLE_USER_JANE" = "" from hb) (by decide)
  obtain ⟨saves, hrecord, -, -, hnamed⟩ := namesRoles_run_iff w avoids_privateSeries userAdded
  exact ⟨avoids_privateSeries, hno, saves, hrecord, hnamed hno⟩

/-- A list with the empty role reaches the store. -/
theorem not_namesRoles_emptyRole :
    ¬∀ (series : String) (page : Nat) (desk : Desk Store Board)
      (events : List (WorkplaceEvent Unit)) (saves : List (String × AccessUpdate)),
      let w := sole (SeriesEditor.make series page) desk
      w.Avoids "" →
      (w.run events).desk.node.savedAccess = w.desk.node.savedAccess ++ saves →
      ∀ save ∈ saves, ∀ entry ∈ save.2.entries, entry.role ≠ "" := by
  intro h
  have hnamed := h "s" 100 privateSeriesDesk emptyRole
    [("s", ⟨Store.privateList ++ [Entry.allowed "" Action.read], false⟩)] avoids_privateSeries rfl
  revert hnamed
  decide

end Workplace

end SeriesAcl
