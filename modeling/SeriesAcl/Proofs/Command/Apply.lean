import SeriesAcl.Command.Run
import SeriesAcl.Proofs.Access.Switching
import SeriesAcl.Proofs.Editing.Picker

/-!
# Applying a template from the command line

What the command that applies a template does on a store in memory. It either saves the switched
list or fails and leaves the store as it was (`run_apply_cases`). For a template of the catalog it
fails only over roles that hold nothing, and a later reader sees the template with its flags
(`run_apply`).
-/

namespace SeriesAcl

namespace Template

/-- A template that is found by its key is found by its id. -/
theorem byId?_of_byKey? {key : String} {t : Template} (h : byKey? key = some t) :
    byId? t.id = some t :=
  byId?_of_mem (mem_of_byKey? h)

private theorem byKey?_of_mem_catalog {t : Template} (ht : t ∈ catalog) :
    byKey? t.key = some t := by
  revert t
  decide

end Template

/-- The organization that templates are resolved against for the user of a store. -/
def Store.callerOrg (s : Store) : Option String :=
  if .currentUser ∈ s.failing then none else s.user.homeOrg

private theorem Store.Reads.callerOrg_eq {s s' : Store} (h : s.Reads s') :
    s'.callerOrg = s.callerOrg := by
  rw [h]
  rfl

/-- The rows that a list is switched to for the user of a store. -/
def Store.switchedRows (s : Store) (entries : List Entry) (t : Template) (flags : Flags) :
    List Policy :=
  Policy.group (Policy.switchEntries (Policy.group entries Policy.seriesField) t s.callerOrg flags)
    Policy.seriesField

namespace SeriesEditor

private theorem org_signedIn_make (series : String) (page : Nat) (s : Store) :
    ((make series page).signedIn s).org = s.callerOrg := by
  unfold signedIn Store.callerOrg
  split <;> rfl

private theorem series_signedIn (e : SeriesEditor) (s : Store) :
    (e.signedIn s).series = e.series := by
  unfold signedIn
  split <;> rfl

/-- The rows of a list that is switched by an editor that was just opened. -/
theorem rows_switched_of_agree {series : String} {page : Nat} {s : Store} {entries : List Entry}
    {e : SeriesEditor} (h : (((make series page).signedIn s).replaceRows entries).Agree e)
    (flags : Flags) (t : Template) :
    ((e.setFlags flags).switched t).rows = s.switchedRows entries t flags := by
  have horg : e.org = s.callerOrg := by rw [h.org, org_replaceRows, org_signedIn_make]
  have hrows : e.rows = _ := h.rows.trans (rows_replaceRows _ entries)
  rw [switched, rows_replaceRows, setFlags, horg, hrows, Store.switchedRows]

end SeriesEditor

namespace Command

section Node

variable {σ : Type} [AdminNode σ]

/-- A series that cannot be opened is not switched. -/
theorem run_apply_of_error {options : RunOptions} {series key : String} {t : Template} {node : σ}
    {error : Error} (hkey : Template.byKey? key = some t)
    (h : (openSeries options series node).answer = .error error) (flags : Flags)
    (overrideEvents : Bool) :
    Command.run options (.apply series key flags overrideEvents) node =
      (.error error, (openSeries options series node).desk.node) := by
  simp only [run, hkey, h]

/-- A series that is opened is switched to the template with the key. -/
theorem run_apply_of_ok {options : RunOptions} {series key : String} {t : Template} {node : σ}
    (hkey : Template.byKey? key = some t) (h : (openSeries options series node).answer = .ok ())
    (flags : Flags) (overrideEvents : Bool) :
    Command.run options (.apply series key flags overrideEvents) node =
      applyTo t flags overrideEvents (openSeries options series node).editor
        (openSeries options series node).desk := by
  simp only [run, hkey, h]

end Node

/-- A series is opened when its list can be read. -/
theorem openSeries_cases (options : RunOptions) (series : String) (s : Store) :
    let opened := openSeries options series s
    s.Reads opened.desk.node ∧
      ((∃ block entries, s.Readable series block entries ∧ opened.answer = .ok () ∧
          opened.editor.locked = block.locked ∧ opened.editor.series = series ∧
          ∀ flags t, ((opened.editor.setFlags flags).switched t).rows =
            s.switchedRows entries t flags) ∨
        (¬∃ block entries, s.Readable series block entries) ∧
          ∃ error, opened.answer = .error error) := by
  have hload := (SeriesEditor.make series options.rolePageSize).load_cases ⟨s, Board.empty⟩
  rcases hload with ⟨hreads, ⟨block, entries, hread, hok, hagree, hlocked⟩ | ⟨hno, herror, -⟩⟩
  · refine ⟨hreads, .inl ⟨block, entries, hread, hok, hlocked, ?_,
      SeriesEditor.rows_switched_of_agree hagree⟩⟩
    rw [openSeries, hagree.series, SeriesEditor.series_replaceRows, SeriesEditor.series_signedIn]
    rfl
  · exact ⟨hreads, .inr ⟨hno, herror⟩⟩

/-- An open list is switched and saved, or the store stays as it is. -/
theorem applyTo_cases {t : Template} (ht : Template.byId? t.id = some t) (flags : Flags)
    (overrideEvents : Bool) (e : SeriesEditor) (desk : Desk Store Board) :
    let done := applyTo t flags overrideEvents e desk
    (e.locked = false ∧ (∃ out, done.1 = .ok out) ∧
        ((e.setFlags flags).switched t).Recorded overrideEvents desk.node done.2) ∨
      (∃ error, done.1 = .error error) ∧ done.2 = desk.node ∧
        (e.locked = true ∨
          (Policy.check ((e.setFlags flags).switched t).rows .relaxed).isValid = false ∨
          .saveSeriesAccess ∈ desk.node.failing) := by
  unfold applyTo
  by_cases hl : e.locked = true
  · simp only [if_pos hl]
    exact .inr ⟨⟨_, rfl⟩, trivial, .inl hl⟩
  · simp only [if_neg hl, SeriesEditor.switchTemplate_eq _ ht]
    have hsave := ((e.setFlags flags).switched t).save_cases false overrideEvents desk
    generalize ((e.setFlags flags).switched t).save false overrideEvents desk = turn at hsave ⊢
    rcases hsave with ⟨ha, hr⟩ | ⟨ha, hn, hwhy⟩
    · rw [ha]
      exact .inl ⟨by simpa using hl, ⟨_, rfl⟩, hr⟩
    · refine .inr ?_
      cases hanswer : turn.answer with
      | error error => exact ⟨⟨_, rfl⟩, hn, .inr hwhy⟩
      | ok outcome =>
        cases outcome with
        | saved => exact absurd hanswer ha
        | rejected check => exact ⟨⟨_, rfl⟩, hn, .inr hwhy⟩

/-- What the command asks of the store and the template before it saves. -/
structure Applicable (s : Store) (series key : String) (flags : Flags) (t : Template)
    (block : SeriesAccess) (entries : List Entry) : Prop where
  known : Template.byKey? key = some t
  readable : s.Readable series block entries
  unlocked : block.locked = false
  allowed : .saveSeriesAccess ∉ s.failing
  valid : (Policy.check (s.switchedRows entries t flags) .relaxed).isValid = true

/-- A command that applies a template saves the switched list, or it fails and leaves the store as
it was, queries for roles aside. -/
theorem run_apply_cases (options : RunOptions) (series key : String) (flags : Flags)
    (overrideEvents : Bool) (s : Store) :
    let done := Command.run options (.apply series key flags overrideEvents) s
    (∃ t block entries s' rewrite, Applicable s series key flags t block entries ∧
        (∃ out, done.1 = .ok out) ∧ s.Reads s' ∧
        done.2 = s'.record series ⟨Policy.toEntries (s.switchedRows entries t flags), rewrite⟩) ∨
      (∃ error, done.1 = .error error) ∧ s.Reads done.2 ∧
        ¬∃ t block entries, Applicable s series key flags t block entries := by
  cases hkey : Template.byKey? key with
  | none =>
    simp only [run, hkey]
    refine .inr ⟨⟨_, rfl⟩, .refl s, ?_⟩
    rintro ⟨t, block, entries, h⟩
    cases hkey.symm.trans h.known
  | some t =>
    have hopened := openSeries_cases options series s
    rcases hopened with ⟨hreads, ⟨block, entries, hread, hok, hlocked, hseries, hrows⟩ |
      ⟨hno, error, herror⟩⟩
    · rw [run_apply_of_ok hkey hok]
      have happlied := applyTo_cases (Template.byId?_of_byKey? hkey) flags overrideEvents
        (openSeries options series s).editor (openSeries options series s).desk
      rcases happlied with ⟨hunlocked, hout, hrecorded⟩ | ⟨herror, hnode, hwhy⟩
      · obtain ⟨hvalid, hallowed, hnode⟩ := hrecorded
        rw [hreads.failing_eq] at hallowed
        rw [hrows] at hvalid
        have hname : ((openSeries options series s).editor.setFlags flags).series = series :=
          hseries
        rw [SeriesEditor.series_switched, hname, hrows] at hnode
        exact .inl ⟨t, block, entries, _, _,
          ⟨hkey, hread, hlocked.symm.trans hunlocked, hallowed, hvalid⟩, hout, hreads, hnode⟩
      · refine .inr ⟨herror, ?_, ?_⟩
        · rw [hnode]
          exact hreads
        · rintro ⟨t', block', entries', h⟩
          obtain rfl := Option.some.inj (hkey.symm.trans h.known)
          obtain ⟨rfl, rfl⟩ := hread.unique h.readable
          rcases hwhy with hl | hv | hf
          · cases (hlocked.symm.trans hl).symm.trans h.unlocked
          · rw [hrows] at hv
            cases h.valid.symm.trans hv
          · rw [hreads.failing_eq] at hf
            exact h.allowed hf
    · rw [run_apply_of_error hkey herror]
      refine .inr ⟨⟨error, rfl⟩, hreads, ?_⟩
      rintro ⟨_, block, entries, h⟩
      exact hno ⟨block, entries, h.readable⟩

section Outcomes

variable (options : RunOptions) (series key : String) (flags : Flags) (overrideEvents : Bool)
  (s : Store)

/-- The command succeeds exactly when all that it asks for is there. -/
theorem run_apply_ok_iff :
    (∃ out, (Command.run options (.apply series key flags overrideEvents) s).1 = .ok out) ↔
      ∃ t block entries, Applicable s series key flags t block entries := by
  rcases run_apply_cases options series key flags overrideEvents s with
    ⟨t, block, entries, -, -, happ, hok, -, -⟩ | ⟨⟨error, herror⟩, -, hno⟩
  · exact ⟨fun _ ↦ ⟨t, block, entries, happ⟩, fun _ ↦ hok⟩
  · refine ⟨?_, fun h ↦ absurd h hno⟩
    rintro ⟨out, hout⟩
    cases hout.symm.trans herror

private theorem run_apply_error_iff :
    (∃ error, (Command.run options (.apply series key flags overrideEvents) s).1 = .error error) ↔
      ¬∃ t block entries, Applicable s series key flags t block entries := by
  rw [← run_apply_ok_iff options series key flags overrideEvents s]
  cases (Command.run options (.apply series key flags overrideEvents) s).1 <;> simp

/-- A command that fails changes no list. -/
theorem lists_eq_of_run_apply_error {error : Error}
    (h : (Command.run options (.apply series key flags overrideEvents) s).1 = .error error) :
    (Command.run options (.apply series key flags overrideEvents) s).2.savedAccess =
        s.savedAccess ∧
      (Command.run options (.apply series key flags overrideEvents) s).2.access = s.access := by
  rcases run_apply_cases options series key flags overrideEvents s with
    ⟨-, -, -, -, -, -, ⟨out, hout⟩, -, -⟩ | ⟨-, hreads, -⟩
  · cases hout.symm.trans h
  · exact hreads.lists_eq

end Outcomes

/-- The switched list may be saved when every role outside the templates is granted something. -/
theorem isValid_switchedRows_iff {s : Store} {t : Template} (ht : t ∈ Template.catalog)
    (ho : t.Resolves s.callerOrg) (entries : List Entry) (flags : Flags) :
    (Policy.check (s.switchedRows entries t flags) .relaxed).isValid = true ↔
      ∀ e ∈ entries, Role.isTemplateRole e.role s.callerOrg = false →
        ∃ action, (e.role, action) ∈
          Entry.grants (Policy.toEntries (Policy.group entries Policy.seriesField)) := by
  rw [Store.switchedRows, Policy.check_switch_iff (Policy.tidied_group entries) ht ho,
    Policy.retainable_group_iff]

/-- For a template of the catalog and a list that can be replaced, only the roles outside the
templates decide. -/
theorem exists_applicable_iff {s : Store} {series : String} {t : Template} {block : SeriesAccess}
    {entries : List Entry} (ht : t ∈ Template.catalog) (ho : t.Resolves s.callerOrg)
    (hread : s.Readable series block entries) (hunlocked : block.locked = false)
    (hallowed : .saveSeriesAccess ∉ s.failing) (flags : Flags) :
    (∃ t' block' entries', Applicable s series t.key flags t' block' entries') ↔
      ∀ e ∈ entries, Role.isTemplateRole e.role s.callerOrg = false →
        ∃ action, (e.role, action) ∈
          Entry.grants (Policy.toEntries (Policy.group entries Policy.seriesField)) := by
  have hkey := Template.byKey?_of_mem_catalog ht
  rw [← isValid_switchedRows_iff ht ho entries flags]
  constructor
  · rintro ⟨t', block', entries', h⟩
    obtain rfl := Option.some.inj (hkey.symm.trans h.known)
    obtain ⟨rfl, rfl⟩ := hread.unique h.readable
    exact h.valid
  · exact fun hvalid ↦ ⟨t, block, entries, hkey, hread, hunlocked, hallowed, hvalid⟩

/-- A fresh editor shows the template that a list was switched to, with its flags. -/
theorem load_switched {s s' : Store} (hreads : s.Reads s') {series : String}
    (hallowed : .seriesAccess ∉ s.failing) {t : Template} (ht : t ∈ Template.catalog)
    (ho : t.Resolves s.callerOrg) {entries : List Entry} {flags : Flags}
    (hvalid : (Policy.check (s.switchedRows entries t flags) .relaxed).isValid = true)
    (rewrite : Bool) {ν : Type} [NoteSink ν] (page : Nat) (notes : ν) :
    let opened := (SeriesEditor.make series page).load
      ⟨s'.record series ⟨Policy.toEntries (s.switchedRows entries t flags), rewrite⟩, notes⟩
    opened.answer = .ok () ∧ opened.editor.isCustom = false ∧ opened.editor.selected = some t ∧
      opened.editor.flags = flags := by
  intro opened
  have hallowed' : .seriesAccess ∉ s'.failing := by rwa [hreads.failing_eq]
  have hread := Store.Readable.record hallowed' series
    ⟨Policy.toEntries (s.switchedRows entries t flags), rewrite⟩
  have hload := (SeriesEditor.make series page).load_cases (Desk.mk (s'.record series
    ⟨Policy.toEntries (s.switchedRows entries t flags), rewrite⟩) notes)
  rcases hload.2 with ⟨block, list, hlist, hok, hagree, -⟩ | ⟨hno, -⟩
  · obtain ⟨-, rfl⟩ := hread.unique hlist
    obtain ⟨hrows, hshows⟩ := SeriesEditor.showsEntries_of_agree hagree
    have hgroup : opened.editor.rows = s.switchedRows entries t flags :=
      hrows.trans (Policy.group_toEntries_of_isValid (Policy.tidied_group _) hvalid)
    have horg : opened.editor.org = s.callerOrg := by
      rw [hagree.org, SeriesEditor.org_replaceRows, SeriesEditor.org_signedIn_make,
        ← hreads.callerOrg_eq]
      rfl
    have hclass : Classification.classify opened.editor.rows opened.editor.org =
        .template t.id flags := by
      rw [hgroup, horg]
      exact Policy.classify_switch _ ht ho flags
    change opened.editor.ShowsLast (some (Classification.classify opened.editor.rows
      opened.editor.org)) at hshows
    rw [hclass] at hshows
    obtain ⟨hcustom, hselected, hflags, -⟩ := hshows
    rw [Template.byId?_of_byKey? (Template.byKey?_of_mem_catalog ht)] at hselected
    exact ⟨hok, hcustom, hselected, hflags⟩
  · exact absurd ⟨_, _, hread⟩ hno

/-- The command that applies a template of the catalog to an open, unlocked list succeeds exactly
when every role outside the template roles holds a grant. It then saves once, these roles keep what
they hold, the template adds what it allows, and whoever loads the series next sees the template
with its flags. Whenever the command fails, for any key and any store, no list has changed. -/
theorem run_apply (options : RunOptions) (s : Store) (series : String) (flags : Flags)
    (overrideEvents : Bool) :
    (∀ t block entries, t ∈ Template.catalog → t.Resolves s.callerOrg →
        s.Readable series block entries → block.locked = false → .saveSeriesAccess ∉ s.failing →
        let done := Command.run options (.apply series t.key flags overrideEvents) s
        let earlier := Entry.grants
          (Policy.toEntries (Policy.group entries Policy.seriesField))
        ((∃ out, done.1 = .ok out) ↔
            ∀ e ∈ entries, Role.isTemplateRole e.role s.callerOrg = false →
              ∃ action, (e.role, action) ∈ earlier) ∧
          ((∃ out, done.1 = .ok out) → ∃ update block',
            done.2.savedAccess = s.savedAccess ++ [(series, update)] ∧
            done.2.access.get? series = some block' ∧ block'.entries = .ok update.entries ∧
            (∀ role action, (role, action) ∈ Entry.grants update.entries ↔
              Role.isTemplateRole role s.callerOrg = false ∧ (role, action) ∈ earlier ∨
                (role, action) ∈ Entry.grants (t.expand s.callerOrg flags)) ∧
            ∀ (ν : Type) [NoteSink ν] (page : Nat) (notes : ν),
              let opened := (SeriesEditor.make series page).load ⟨done.2, notes⟩
              opened.answer = .ok () ∧ opened.editor.isCustom = false ∧
                opened.editor.selected = some t ∧ opened.editor.flags = flags)) ∧
      ∀ key, let done := Command.run options (.apply series key flags overrideEvents) s
        ((∃ error, done.1 = .error error) ↔
            ¬∃ t block entries, Applicable s series key flags t block entries) ∧
          ∀ error, done.1 = .error error →
            done.2.savedAccess = s.savedAccess ∧ done.2.access = s.access := by
  refine ⟨?_, ?_⟩
  · intro t block entries ht ho hread hunlocked hallowed done earlier
    refine ⟨?_, ?_⟩
    · rw [run_apply_ok_iff]
      exact exists_applicable_iff ht ho hread hunlocked hallowed flags
    · rintro ⟨out, hok⟩
      rcases run_apply_cases options series t.key flags overrideEvents s with
        ⟨t', block', entries', s', rewrite, happ, -, hreads, hnode⟩ | ⟨⟨error, herror⟩, -, -⟩
      · obtain rfl := Option.some.inj ((Template.byKey?_of_mem_catalog ht).symm.trans happ.known)
        obtain ⟨rfl, rfl⟩ := hread.unique happ.readable
        obtain ⟨block, hblock, hentries⟩ := s'.exists_block_record series
          ⟨Policy.toEntries (s.switchedRows entries' t flags), rewrite⟩
        have hdone : done.2 = _ := hnode
        rw [hdone]
        refine ⟨_, block, ?_, hblock, hentries, ?_, ?_⟩
        · rw [← hreads.lists_eq.1]
          rfl
        · exact Policy.mem_grants_switch_of_tidied (Policy.tidied_group entries') ht ho flags
        · intro ν _ page notes
          exact load_switched hreads hread.allowed ht ho happ.valid rewrite page notes
      · cases hok.symm.trans herror
  · intro key done
    refine ⟨run_apply_error_iff options series key flags overrideEvents s, ?_⟩
    intro error herror
    exact lists_eq_of_run_apply_error options series key flags overrideEvents s herror

/-- A private series is made private again. -/
theorem run_apply_privateStore :
    Store.privateStore.Readable "s" ⟨(AclDocument.mk Store.privateList).toJson, false, Dict.empty⟩
        Store.privateList ∧
      ∃ out, (Command.run ⟨100, false⟩ (.apply "s" "private" Flags.none false)
        Store.privateStore).1 = .ok out := by
  have hread : Store.privateStore.Readable "s"
      ⟨(AclDocument.mk Store.privateList).toJson, false, Dict.empty⟩ Store.privateList :=
    Store.readable_putList (by decide) "s" Store.privateList false
  have happly := (run_apply ⟨100, false⟩ Store.privateStore "s" Flags.none false).1
    Template.privateSeries _ Store.privateList Template.privateSeries_mem_catalog
    (Template.privateSeries_resolves _) hread rfl (by decide)
  refine ⟨hread, happly.1.mpr ?_⟩
  intro e he hout
  simp only [Store.privateList, List.mem_cons, List.not_mem_nil, or_false] at he
  rcases he with rfl | rfl | rfl
  · exact absurd hout (by decide)
  · exact ⟨Action.read, by decide⟩
  · exact ⟨Action.read, by decide⟩

end Command

end SeriesAcl
