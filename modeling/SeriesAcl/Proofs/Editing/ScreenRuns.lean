import SeriesAcl.Editing.Screen
import SeriesAcl.Proofs.Editing.Banners

/-!
# The banners of a screen in a run

Which banners a screen shows while it is opened, changed to other series and edited. Opening takes
the rows of the list over unchecked, and a change replaces the editor with one that knows of no
banner, so each can leave a banner behind. The banners tell the truth throughout a run exactly when
no step comes at a time when it does so (`bannersTell_run_iff`).
-/

namespace SeriesAcl

/-- A screen and the desk that it is on. -/
structure ScreenSession (σ : Type) where
  screen : Screen
  desk : Desk σ Board

/-- A step of a run: of the screen, of the clock, or of the node on its own. -/
inductive ScreenEvent (σ : Type) where
  | open
  | change (series : String) (rolePage : Nat)
  | access (op : SeriesOp)
  | wait (milliseconds : Nat)
  | node (change : σ → σ)

namespace ScreenSession

variable {σ : Type} [AdminNode σ]

/-- A new screen on an empty board. -/
def make (series : String) (rolePage : Nat) (node : σ) : ScreenSession σ :=
  ⟨Screen.make series rolePage, ⟨node, Board.empty⟩⟩

/-- The session that a turn of the screen leaves. -/
def ofTurn {α : Type} (turn : Turn Screen σ Board α) : ScreenSession σ :=
  ⟨turn.editor, turn.desk⟩

/-- A session after a step. -/
def step (x : ScreenSession σ) : ScreenEvent σ → ScreenSession σ
  | .open => ofTurn (x.screen.load x.desk)
  | .change series rolePage => ofTurn (x.screen.change series rolePage x.desk)
  | .access op => ofTurn (x.screen.editAccess (fun e desk ↦ e.perform op desk) x.desk)
  | .wait milliseconds =>
    { x with desk := { x.desk with notes := x.desk.notes.advance milliseconds } }
  | .node change => { x with desk := { x.desk with node := change x.desk.node } }

/-- A new session after some steps. -/
def run (series : String) (rolePage : Nat) (node : σ) (events : List (ScreenEvent σ)) :
    ScreenSession σ :=
  events.foldl step (make series rolePage node)

/-- The banners of a session. -/
def banners (x : ScreenSession σ) : Banners Board :=
  x.screen.access.banners x.desk.notes

/-- The banners tell the truth as far as they are shown: at most one is about rows, and then the
rows do not count as valid; those about a lock are about the lock of the series on the screen. -/
structure BannersTell (x : ScreenSession σ) : Prop where
  single : ((x.desk.notes.active Note.aclContext).filter fun n ↦
    n.key == Note.invalidRules).length ≤ 1
  rules : x.desk.notes.has Note.aclContext Note.invalidRules = true →
    x.screen.access.valid = false
  lock : ∀ context, x.desk.notes.has context Note.listLocked = true →
    context = Note.lockContext x.screen.series

/-- The node once the sections before the permissions are loaded. -/
def nodeBeforeAccess (series : String) (node : σ) : σ :=
  (ThemeChoice.load series (Screen.loadMetadata series node).2).2

/-- Whether a step comes at a time when it does no harm to the banners: rows are taken over
unchecked only while no banner about rows is shown, and the series is changed only while none is
shown and no banner about the lock of another series. -/
def Harmless (x : ScreenSession σ) : ScreenEvent σ → Prop
  | .open => AdminNode.ListRead x.screen.series (nodeBeforeAccess x.screen.series x.desk.node) →
    x.desk.notes.has Note.aclContext Note.invalidRules = false
  | .change series _ => x.desk.notes.has Note.aclContext Note.invalidRules = false ∧
    ∀ context, x.desk.notes.has context Note.listLocked = true →
      context = Note.lockContext series
  | .access op => op.TakesUnchecked x.screen.series x.desk.node →
    x.desk.notes.has Note.aclContext Note.invalidRules = false
  | .wait _ => True
  | .node _ => True

/-- What holds in every run: the permissions are of the series on the screen, and the banners are in
order. -/
structure Orderly (x : ScreenSession σ) : Prop where
  series : x.screen.access.series = x.screen.series
  banners : x.banners.Orderly

variable {x : ScreenSession σ}

/-! ### What a step does to the banners -/

omit [AdminNode σ] in
/-- The banners that are shown are those that stand. -/
theorem bannersTell_iff (h : x.Orderly) :
    x.BannersTell ↔ x.banners.standingRules.length ≤ 1 ∧
      (x.banners.standingRules ≠ [] → x.screen.access.valid = false) ∧
      ∀ context, x.banners.standingLock context ≠ [] →
        context = Note.lockContext x.screen.series := by
  have hlength := Board.length_active h.banners.rulesUntimed Note.aclContext
  have hrules := Board.has_iff h.banners.rulesUntimed Note.aclContext
  have hlock := Board.has_iff h.banners.lockUntimed
  constructor
  · rintro ⟨hsingle, htell, hseries⟩
    exact ⟨hlength ▸ hsingle, fun hne ↦ htell (hrules.mpr hne),
      fun context hne ↦ hseries context ((hlock context).mpr hne)⟩
  · rintro ⟨hsingle, htell, hseries⟩
    exact ⟨hlength ▸ hsingle, fun hhas ↦ htell (hrules.mp hhas),
      fun context hhas ↦ hseries context ((hlock context).mp hhas)⟩

private theorem screen_load (s : Screen) (desk : Desk σ Board) :
    let before : Desk σ Board := ⟨nodeBeforeAccess s.series desk.node, desk.notes⟩
    (s.load desk).editor.series = s.series ∧
      (s.load desk).editor.access = (s.access.load before).editor ∧
      (s.load desk).desk = (s.access.load before).desk := by
  unfold Screen.load Desk.call nodeBeforeAccess
  dsimp only
  rcases Screen.loadMetadata s.series desk.node with ⟨_ | _, node⟩ <;> exact ⟨rfl, rfl, rfl⟩

/-- A load of the whole screen does to the banners what a load of the permissions does. -/
theorem banners_screen_load (s : Screen) (hs : s.access.series = s.series) (desk : Desk σ Board) :
    (AdminNode.ListRead s.series (nodeBeforeAccess s.series desk.node) ∧
        (s.access.banners desk.notes).Take (ofTurn (s.load desk)).banners) ∨
      ¬AdminNode.ListRead s.series (nodeBeforeAccess s.series desk.node) ∧
        (ofTurn (s.load desk)).banners = s.access.banners desk.notes := by
  obtain ⟨-, haccess, hdesk⟩ := screen_load s desk
  have hload := s.access.banners_load ⟨nodeBeforeAccess s.series desk.node, desk.notes⟩
  rw [hs, ← haccess, ← hdesk] at hload
  exact hload

/-- A change starts with an editor that knows of no banner. -/
theorem banners_change (x : ScreenSession σ) (series : String) (rolePage : Nat) :
    (Banners.fresh series x.desk.notes).Take (x.step (.change series rolePage)).banners := by
  rcases banners_screen_load (Screen.make series rolePage) rfl x.desk with ⟨-, htake⟩ | ⟨-, hsame⟩
  · exact htake
  · -- Without a list the rows of the new editor count as valid already.
    rw [show (x.step (.change series rolePage)).banners = _ from hsame]
    exact .accept

private theorem series_change (x : ScreenSession σ) (series : String) (rolePage : Nat) :
    (x.step (.change series rolePage)).screen.series = series :=
  (screen_load (Screen.make series rolePage) x.desk).1

/-! ### One step -/

omit [AdminNode σ] in
/-- What becomes of the banners when rows are taken over: the banners about rows stay, and the rows
count as valid. -/
theorem not_bannersTell_of_take {b : Banners Board} (hb : b.Orderly) (h : x.Orderly)
    (ht : b.Take x.banners) (hne : b.standingRules ≠ []) : ¬x.BannersTell := by
  intro htell
  obtain ⟨hsame, hvalid⟩ := Banners.standingRules_take hb ht
  rw [← hsame] at hne
  have hinvalid := ((bannersTell_iff h).mp htell).2.1 hne
  cases hinvalid.symm.trans hvalid

private theorem Orderly.step (h : x.Orderly) (event : ScreenEvent σ) : (x.step event).Orderly := by
  cases event with
  | «open» =>
    have hseries : (x.step .open).screen.series = x.screen.series :=
      (screen_load x.screen x.desk).1
    rcases banners_screen_load x.screen h.series x.desk with ⟨-, htake⟩ | ⟨-, hsame⟩
    · exact ⟨((Banners.series_take htake).trans h.series).trans hseries.symm,
        h.banners.take htake⟩
    · exact ⟨((congrArg Banners.series hsame).trans h.series).trans hseries.symm,
        hsame ▸ h.banners⟩
  | change series rolePage =>
    have htake := x.banners_change series rolePage
    exact ⟨(Banners.series_take htake).trans (x.series_change series rolePage).symm,
      (h.banners.fresh series).take htake⟩
  | access op =>
    rcases x.screen.access.banners_perform op x.desk with ⟨-, htake⟩ | ⟨-, hstep⟩
    · exact ⟨(Banners.series_take htake).trans h.series, h.banners.take htake⟩
    · exact ⟨(Banners.series_step hstep).trans h.series, h.banners.step hstep⟩
  | wait milliseconds =>
    obtain ⟨hseries, hb⟩ := h
    exact ⟨hseries, hb.sorted, hb.rulesUntimed.advance milliseconds,
      hb.lockUntimed.advance milliseconds, hb.rulesContext, hb.lockContext⟩
  | node change => exact ⟨h.series, h.banners⟩

omit [AdminNode σ] in
private theorem standingRules_eq_nil_iff (h : x.Orderly) :
    x.desk.notes.has Note.aclContext Note.invalidRules = false ↔ x.banners.standingRules = [] := by
  have hhas := Board.has_iff h.banners.rulesUntimed Note.aclContext
  rw [← Bool.not_eq_true, show x.desk.notes.has Note.aclContext Note.invalidRules = true ↔ _ from
    hhas, not_not]
  rfl

/-- True banners stay true when a step does no harm. -/
theorem truthful_step (h : x.Orderly) (ht : x.banners.Truthful) {event : ScreenEvent σ}
    (hharmless : x.Harmless event) : (x.step event).banners.Truthful := by
  cases event with
  | «open» =>
    rcases banners_screen_load x.screen h.series x.desk with ⟨hread, htake⟩ | ⟨-, hsame⟩
    · exact ht.take h.banners ((standingRules_eq_nil_iff h).mp (hharmless hread)) htake
    · exact hsame ▸ ht
  | change series rolePage =>
    obtain ⟨hno, hlock⟩ := hharmless
    have hnil := (standingRules_eq_nil_iff h).mp hno
    have hfresh : (Banners.fresh series x.desk.notes).Truthful :=
      ⟨hnil, nofun, fun context hs ↦
        hlock context ((Board.has_iff h.banners.lockUntimed context).mpr hs)⟩
    exact hfresh.take (h.banners.fresh series) hnil (x.banners_change series rolePage)
  | access op =>
    rcases x.screen.access.banners_perform op x.desk with ⟨htakes, htake⟩ | ⟨-, hstep⟩
    · rw [h.series] at htakes
      exact ht.take h.banners ((standingRules_eq_nil_iff h).mp (hharmless htakes)) htake
    · exact ht.step h.banners hstep
  | wait milliseconds =>
    -- No time takes down a note that stands.
    exact ⟨ht.rules, ht.valid, ht.lock⟩
  | node change => exact ht

omit [AdminNode σ] in
/-- Banners that are true tell the truth as far as they are shown. -/
theorem bannersTell_of_truthful (h : x.Orderly) (ht : x.banners.Truthful) : x.BannersTell := by
  have hslot := ht.rules
  refine (bannersTell_iff h).mpr ⟨?_, fun hne ↦ ht.valid ?_, fun context hs ↦ ?_⟩
  · rw [hslot]
    cases x.banners.rules.current <;> simp
  · rw [Slot.isRaised]
    cases hcurrent : x.banners.rules.current with
    | none =>
      rw [hcurrent] at hslot
      exact absurd hslot hne
    | some shown => rfl
  · rw [← h.series]
    exact ht.lock context hs

/-- After a step that does harm the banners do not tell the truth. -/
theorem not_bannersTell_of_not_harmless (h : x.Orderly) {event : ScreenEvent σ}
    (hharm : ¬x.Harmless event) : ¬(x.step event).BannersTell := by
  have hafter := h.step event
  cases event with
  | «open» =>
    obtain ⟨hread, hhas⟩ := Classical.not_imp.mp hharm
    rw [standingRules_eq_nil_iff h] at hhas
    rcases banners_screen_load x.screen h.series x.desk with ⟨-, htake⟩ | ⟨hno, -⟩
    · exact not_bannersTell_of_take h.banners hafter htake hhas
    · exact absurd hread hno
  | change series rolePage =>
    have hfresh := h.banners.fresh series
    have htake := x.banners_change series rolePage
    by_cases hnil : x.banners.standingRules = []
    · -- Then the banner about the lock of another series outlives the editor that raised it.
      have hother : ∃ context, x.banners.standingLock context ≠ [] ∧
          context ≠ Note.lockContext series := by
        by_contra hall
        push Not at hall
        exact hharm ⟨(standingRules_eq_nil_iff h).mpr hnil, fun context hhas ↦
          hall context ((Board.has_iff h.banners.lockUntimed context).mp hhas)⟩
      obtain ⟨context, hstanding, hne⟩ := hother
      intro htell
      have hlock := ((bannersTell_iff hafter).mp htell).2.2 context
      rw [series_change] at hlock
      exact hne (hlock (Banners.standingLock_take_of_fresh hfresh rfl htake hstanding))
    · exact not_bannersTell_of_take hfresh hafter htake hnil
  | access op =>
    obtain ⟨htakes, hhas⟩ := Classical.not_imp.mp hharm
    rw [standingRules_eq_nil_iff h] at hhas
    rcases x.screen.access.banners_perform op x.desk with ⟨-, htake⟩ | ⟨hno, -⟩
    · exact not_bannersTell_of_take h.banners hafter htake hhas
    · rw [h.series] at hno
      exact absurd htakes hno
  | wait milliseconds => exact absurd trivial hharm
  | node change => exact absurd trivial hharm

/-! ### Runs -/

private theorem run_append (series : String) (rolePage : Nat) (node : σ)
    (before after : List (ScreenEvent σ)) :
    run series rolePage node (before ++ after) =
      after.foldl step (run series rolePage node before) :=
  List.foldl_append

private theorem orderly_run (series : String) (rolePage : Nat) (node : σ)
    (events : List (ScreenEvent σ)) :
    (run series rolePage node events).Orderly := by
  induction events using List.reverseRecOn with
  | nil =>
    refine ⟨rfl, List.Pairwise.nil, ?_, ?_, nofun, nofun⟩ <;> exact fun _ _ hp ↦ nomatch hp
  | append_singleton before event ih =>
    rw [run_append]
    exact ih.step event

/-- The banners are true after steps that do no harm. -/
theorem truthful_run (series : String) (rolePage : Nat) (node : σ) (events : List (ScreenEvent σ))
    (hharmless : ∀ before event after, events = before ++ event :: after →
      (run series rolePage node before).Harmless event) :
    (run series rolePage node events).banners.Truthful := by
  induction events using List.reverseRecOn with
  | nil => exact ⟨rfl, nofun, fun context hs ↦ absurd rfl hs⟩
  | append_singleton before event ih =>
    rw [run_append]
    refine truthful_step (orderly_run series rolePage node before) (ih ?_)
      (hharmless before event [] rfl)
    rintro first middle last rfl
    exact hharmless first middle (last ++ [event]) (by simp)

/-- Throughout a run the banners tell the truth exactly if every step comes at a time when it does
no harm: rows are taken over unchecked, by a load or while loading, only while no banner about rows
is shown, and the series is changed only while none is shown and none about another series' lock. -/
theorem bannersTell_run_iff (series : String) (rolePage : Nat) (node : σ)
    (events : List (ScreenEvent σ)) :
    (∀ before after, events = before ++ after →
        (run series rolePage node before).BannersTell) ↔
      ∀ before event after, events = before ++ event :: after →
        (run series rolePage node before).Harmless event := by
  constructor
  · intro htell before event after hevents
    by_contra hharm
    refine not_bannersTell_of_not_harmless (orderly_run series rolePage node before) hharm ?_
    have hnext := htell (before ++ [event]) after (by simp [hevents])
    rwa [run_append] at hnext
  · rintro hharmless before after rfl
    refine bannersTell_of_truthful (orderly_run series rolePage node before)
      (truthful_run series rolePage node before ?_)
    rintro first event last rfl
    exact hharmless first event (last ++ after) (by simp)

/-- A node with a locked series and an open one. -/
def lockedStore : Store :=
  (Store.empty.putList "a" [] true).putList "b" [] false

/-- The locked series gets an empty row and is opened again; then the other series gets one. -/
def blankRows : List (ScreenEvent Store) :=
  [.open, .access .addRow, .access (.save false false), .open,
    .change "b" 100, .access .addRow, .access (.save false false)]

/-- In the end two banners are about rows, and one is about the lock of a series that is no longer
shown. -/
theorem not_bannersTell_blankRows :
    ¬∀ (series : String) (rolePage : Nat) (node : Store) (events : List (ScreenEvent Store)),
      (run series rolePage node events).BannersTell := by
  intro h
  have hsingle := (h "a" 100 lockedStore blankRows).single
  revert hsingle
  decide

end ScreenSession

end SeriesAcl
