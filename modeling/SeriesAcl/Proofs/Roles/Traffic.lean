import Mathlib.Data.List.Induction
import Mathlib.Data.List.TakeWhile
import SeriesAcl.Proofs.Roles.Paging

/-!
# Requests of a directory

A fetch asks for its page and then waits, while other fetches may start, names may be made known and
the roles may be forgotten. A fetch runs without a break up to its request and again from the end of
the request on, so each of these is one step: the start of a fetch, the end of a request by its
page, by a failure or because nobody waits for it any more, and a whole call of the other two. In
every order of steps at most one request is outstanding, the directory knows whether one is, and the
next page starts behind the known roles (`single_request_of_run`).
-/

namespace SeriesAcl

/-! ### Searches -/

namespace Text

/-- Nothing is left of a text exactly if all of it is blank. -/
theorem trim_eq_empty_iff {s : String} : trim s = "" ↔ allBlank s = true := by
  have hstart : ∀ l : List Char, trimEnd (trimStart l) = [] ↔ ∀ c ∈ l, isBlank c = true := by
    intro l
    unfold trimEnd trimStart
    rw [List.reverse_eq_nil_iff, List.dropWhile_eq_nil_iff]
    simp only [List.mem_reverse]
    constructor
    · intro h c hc
      rw [← List.takeWhile_append_dropWhile (p := isBlank) (l := l), List.mem_append] at hc
      rcases hc with hc | hc
      · exact List.mem_takeWhile_imp hc
      · exact h c hc
    · exact fun h c hc ↦ h c ((List.dropWhile_sublist isBlank).mem hc)
  rw [trim, allBlank, List.all_eq_true, ← hstart]
  exact String.ofList_eq_empty_iff

end Text

namespace RoleQuery

/-- Whether a search looks for a text that is not blank. -/
def isSearch : Option String → Bool
  | some text => !Text.allBlank text
  | none => false

private theorem searchText_eq_none_iff {search : Option String} :
    searchText search = none ↔ isSearch search = false := by
  cases search with
  | none => exact iff_of_true rfl rfl
  | some text =>
    rw [searchText, isSearch, Option.map_some, Option.filter_eq_none_iff]
    simp [Text.trim_eq_empty_iff]

/-- A query asks for as many roles as it is told. -/
@[simp]
theorem limit_make (limit offset : Nat) (search : Option String) :
    (make limit offset search).limit = limit := by
  unfold make
  split <;> rfl

private theorem offset_make (limit offset : Nat) (search : Option String) :
    (make limit offset search).offset = if isSearch search then 0 else offset := by
  unfold make
  split
  · next name h =>
    have hsearch : isSearch search = true := by
      rw [← Bool.not_eq_false, ← searchText_eq_none_iff, h]
      exact Option.some_ne_none name
    rw [if_pos hsearch]
  · next h =>
    rw [searchText_eq_none_iff.mp h]
    rfl

end RoleQuery

namespace RoleDirectory

/-- The first role is asked for by a search and where pages do not advance; any other query starts
behind the known roles. -/
theorem offset_query {d : RoleDirectory} (h : d.nextOffset = d.size) (search : Option String) :
    (d.query search).offset =
      if RoleQuery.isSearch search = true ∨ d.paging = .firstPage then 0 else d.size := by
  rw [query, RoleQuery.offset_make]
  cases hp : d.paging <;> cases RoleQuery.isSearch search <;> simp [h]

private theorem start_of_loading {d : RoleDirectory} (h : d.isLoading = true)
    (search : Option String) :
    d.start search = (none, d) :=
  if_pos h

private theorem start_of_idle {d : RoleDirectory} (h : d.isLoading = false)
    (search : Option String) :
    d.start search = (some (d.query search), { d with isLoading := true }) :=
  if_neg (Bool.eq_false_iff.mp h)

private theorem more_of_loading {σ : Type} [AdminNode σ] {d : RoleDirectory}
    (h : d.isLoading = true)
    (search : Option String) (node : σ) : d.more search node = (.ok none, d, node) := by
  rw [more, start_of_loading h]

private theorem contains_arrive {d : RoleDirectory} {role : String} (h : d.contains role = true)
    (page : List RoleEntry) : (d.arrive page).contains role = true :=
  (contains_absorb d.roles page role).mpr (.inr h)

/-- Making a name known keeps the roles that were known, with their labels. -/
theorem get?_ensure {d : RoleDirectory} {known label : String}
    (h : d.roles.get? known = some label) (role : String) :
    (d.ensure role).roles.get? known = some label := by
  unfold ensure
  split
  · exact h
  · next hrole =>
    have hne : role ≠ known := by
      rintro rfl
      exact hrole (Option.isSome_of_eq_some h)
    rw [Dict.get?_insert, if_neg hne, h]

private theorem contains_ensure {d : RoleDirectory} {known : String} (h : d.contains known = true)
    (role : String) : (d.ensure role).contains known = true := by
  obtain ⟨label, hlabel⟩ := Option.isSome_iff_exists.mp h
  exact Option.isSome_of_eq_some (get?_ensure hlabel role)

end RoleDirectory

/-! ### Steps -/

/-- A directory with the queries it sent and the requests that wait for their end. A request is
told by the place of its query among those sent. -/
structure Traffic where
  directory : RoleDirectory
  sent : List RoleQuery
  waiting : List Nat

/-- One step of the fetches of a directory or of its other callers. -/
inductive TrafficEvent where
  | start (search : Option String)
  | arrive (request : Nat) (page : List RoleEntry)
  | fail (request : Nat)
  | drop (request : Nat)
  | ensure (role : String)
  | clear
  deriving DecidableEq

namespace Traffic

/-- A directory that has asked for nothing. -/
def make (pageSize : Nat) (paging : Paging) : Traffic :=
  ⟨RoleDirectory.make pageSize paging, [], []⟩

/-- The start of a fetch, which sends its query or ends at once. -/
def start (x : Traffic) (search : Option String) : Traffic :=
  match x.directory.start search with
  | (none, d) => { x with directory := d }
  | (some query, d) => ⟨d, x.sent ++ [query], x.waiting ++ [x.sent.length]⟩

/-- The end of a request, with what it does to the directory. -/
def finish (x : Traffic) (request : Nat) (change : RoleDirectory → RoleDirectory) : Traffic :=
  if request ∈ x.waiting then
    ⟨change x.directory, x.sent, x.waiting.erase request⟩
  else x

/-- A directory and its requests after a step. -/
def step (x : Traffic) : TrafficEvent → Traffic
  | .start search => x.start search
  | .arrive request page => x.finish request fun d ↦ d.arrive page
  | .fail request => x.finish request RoleDirectory.giveUp
  | .drop request => x.finish request RoleDirectory.giveUp
  | .ensure role => { x with directory := x.directory.ensure role }
  | .clear => { x with directory := x.directory.clear }

/-- A new directory and its requests after some steps. -/
def run (pageSize : Nat) (paging : Paging) (events : List TrafficEvent) : Traffic :=
  events.foldl step (make pageSize paging)

/-- The directory tells by its guard whether its one request is outstanding, and by its offset how
many roles it knows. -/
structure Guarded (pageSize : Nat) (paging : Paging) (x : Traffic) : Prop where
  guard : x.directory.isLoading = true ↔ x.waiting.length = 1
  single : x.waiting.length ≤ 1
  pageSize : x.directory.pageSize = max 1 pageSize
  paging : x.directory.paging = paging
  nextOffset : x.directory.nextOffset = x.directory.size

variable {pageSize : Nat} {paging : Paging} {x : Traffic}

namespace Guarded

private theorem isLoading_of_ne_nil (h : x.Guarded pageSize paging) (hx : x.waiting ≠ []) :
    x.directory.isLoading = true :=
  h.guard.mpr (Nat.le_antisymm h.single (List.length_pos_of_ne_nil hx))

private theorem isLoading_of_nil (h : x.Guarded pageSize paging) (hx : x.waiting = []) :
    x.directory.isLoading = false := by
  rw [← Bool.not_eq_true, h.guard, hx]
  exact Nat.zero_ne_one

private theorem start_of_ne_nil (h : x.Guarded pageSize paging) (hx : x.waiting ≠ [])
    (search : Option String) : x.start search = x := by
  rw [start, RoleDirectory.start_of_loading (h.isLoading_of_ne_nil hx)]

private theorem start_of_nil (h : x.Guarded pageSize paging) (hx : x.waiting = [])
    (search : Option String) :
    x.start search = ⟨{ x.directory with isLoading := true },
      x.sent ++ [x.directory.query search], [x.sent.length]⟩ := by
  rw [start, RoleDirectory.start_of_idle (h.isLoading_of_nil hx), hx]
  rfl

/-- A query asks for a whole page, from the first role or from behind the known roles. -/
theorem query_eq (h : x.Guarded pageSize paging) (search : Option String) :
    (x.directory.query search).limit = max 1 pageSize ∧
      (x.directory.query search).offset =
        if RoleQuery.isSearch search = true ∨ paging = .firstPage then 0 else x.directory.size := by
  constructor
  · rw [RoleDirectory.query, RoleQuery.limit_make, h.pageSize]
  · rw [RoleDirectory.offset_query h.nextOffset, h.paging]

/-- The request that ends is the only one. -/
theorem finish_of_mem (h : x.Guarded pageSize paging) {request : Nat} (hr : request ∈ x.waiting)
    (change : RoleDirectory → RoleDirectory) :
    x.finish request change = ⟨change x.directory, x.sent, []⟩ := by
  have hone : x.waiting = [request] := by
    obtain ⟨other, hother⟩ := List.length_eq_one_iff.mp
      (Nat.le_antisymm h.single (List.length_pos_of_mem hr))
    rw [hother] at hr ⊢
    rw [List.mem_singleton.mp hr]
  rw [finish, if_pos hr, hone, List.erase_cons_head]

/-- The end of a request frees the directory, whatever else it does. -/
theorem finish (h : x.Guarded pageSize paging) (request : Nat)
    (change : RoleDirectory → RoleDirectory) (hidle : (change x.directory).isLoading = false)
    (hsize : (change x.directory).pageSize = x.directory.pageSize)
    (hpaging : (change x.directory).paging = x.directory.paging)
    (hoffset : (change x.directory).nextOffset = (change x.directory).size) :
    (x.finish request change).Guarded pageSize paging := by
  by_cases hr : request ∈ x.waiting
  · rw [h.finish_of_mem hr]
    exact ⟨by simp [hidle], Nat.zero_le 1, hsize.trans h.pageSize, hpaging.trans h.paging, hoffset⟩
  · rwa [Traffic.finish, if_neg hr]

private theorem start (h : x.Guarded pageSize paging) (search : Option String) :
    (x.start search).Guarded pageSize paging := by
  by_cases hx : x.waiting = []
  · rw [h.start_of_nil hx]
    exact ⟨by simp, Nat.le_refl 1, h.pageSize, h.paging, h.nextOffset⟩
  · rwa [h.start_of_ne_nil hx]

/-- A call that does not touch the guard may come at any time. -/
theorem ensure (h : x.Guarded pageSize paging) (role : String) :
    (x.step (.ensure role)).Guarded pageSize paging := by
  rw [Traffic.step, RoleDirectory.ensure]
  split
  · exact h
  · exact ⟨h.guard, h.single, h.pageSize, h.paging, rfl⟩

private theorem step (h : x.Guarded pageSize paging) (event : TrafficEvent) :
    (x.step event).Guarded pageSize paging := by
  cases event with
  | start search => exact h.start search
  | arrive request page => exact h.finish request (fun d ↦ d.arrive page) rfl rfl rfl rfl
  | fail request => exact h.finish request _ rfl rfl rfl h.nextOffset
  | drop request => exact h.finish request _ rfl rfl rfl h.nextOffset
  | ensure role => exact h.ensure role
  | clear => exact ⟨h.guard, h.single, h.pageSize, h.paging, rfl⟩

end Guarded

/-- A run that is one step longer. -/
theorem run_concat (pageSize : Nat) (paging : Paging) (events : List TrafficEvent)
    (event : TrafficEvent) :
    run pageSize paging (events ++ [event]) = (run pageSize paging events).step event := by
  rw [run, List.foldl_append]
  rfl

/-- Every run keeps to the guard. -/
theorem guarded_run (pageSize : Nat) (paging : Paging) (events : List TrafficEvent) :
    (run pageSize paging events).Guarded pageSize paging := by
  induction events using List.reverseRecOn with
  | nil => exact ⟨by simp [run, make, RoleDirectory.make], Nat.zero_le 1, rfl, rfl, rfl⟩
  | append_singleton rest event ih =>
    rw [run_concat]
    exact ih.step event

/-! ### What is sent -/

/-- Only the start of a fetch sends a query. -/
theorem sent_step (x : Traffic) {event : TrafficEvent} (h : ∀ search, event ≠ .start search) :
    (x.step event).sent = x.sent := by
  have hfinish : ∀ request change, (x.finish request change).sent = x.sent := by
    intro request change
    unfold finish
    split <;> rfl
  cases event with
  | start search => exact absurd rfl (h search)
  | arrive request page => exact hfinish request _
  | fail request => exact hfinish request _
  | drop request => exact hfinish request _
  | ensure role => rfl
  | clear => rfl

/-- A query was sent by a fetch that started while no request was outstanding, when exactly the
queries in front of it had been sent. -/
theorem exists_start_of_sent {events : List TrafficEvent} {earlier later : List RoleQuery}
    {q : RoleQuery} (hsent : (run pageSize paging events).sent = earlier ++ q :: later) :
    ∃ before search after, events = before ++ .start search :: after ∧
      (run pageSize paging before).waiting = [] ∧ (run pageSize paging before).sent = earlier ∧
      q = (run pageSize paging before).directory.query search := by
  induction events using List.reverseRecOn generalizing later with
  | nil => exact absurd hsent.symm (List.append_ne_nil_of_right_ne_nil _ (List.cons_ne_nil _ _))
  | append_singleton rest event ih =>
    -- A query of the run before the last step keeps its origin.
    have hearlier : ∀ {later}, (run pageSize paging rest).sent = earlier ++ q :: later →
        ∃ before search after, rest ++ [event] = before ++ .start search :: after ∧
          (run pageSize paging before).waiting = [] ∧
          (run pageSize paging before).sent = earlier ∧
          q = (run pageSize paging before).directory.query search := by
      intro later h
      obtain ⟨before, search, after, rfl, horigin⟩ := ih h
      exact ⟨before, search, after ++ [event], by simp, horigin⟩
    rw [run_concat] at hsent
    by_cases hstart : ∃ search, event = .start search
    · obtain ⟨search, rfl⟩ := hstart
      have hguarded := guarded_run pageSize paging rest
      by_cases hx : (run pageSize paging rest).waiting = []
      · rw [step, hguarded.start_of_nil hx] at hsent
        rcases List.eq_nil_or_concat later with rfl | ⟨later, last, rfl⟩
        · obtain ⟨hbefore, hquery⟩ := List.append_inj' hsent rfl
          exact ⟨rest, search, [], rfl, hx, hbefore, (List.singleton_inj.mp hquery).symm⟩
        · rw [List.concat_eq_append, ← List.cons_append, ← List.append_assoc] at hsent
          exact hearlier (List.append_inj' hsent rfl).1
      · rw [step, hguarded.start_of_ne_nil hx] at hsent
        exact hearlier hsent
    · rw [sent_step _ (not_exists.mp hstart)] at hsent
      exact hearlier hsent

/-! ### What is known -/

/-- Only forgetting all roles makes a known role unknown. -/
theorem contains_step (x : Traffic) {event : TrafficEvent} (h : event ≠ .clear) {role : String}
    (hr : x.directory.contains role = true) : (x.step event).directory.contains role = true := by
  have hfinish : ∀ request (change : RoleDirectory → RoleDirectory),
      (change x.directory).contains role = true →
        (x.finish request change).directory.contains role = true := by
    intro request change hchange
    unfold finish
    split
    · exact hchange
    · exact hr
  cases event with
  | start search =>
    rw [step, start, RoleDirectory.start]
    cases x.directory.isLoading <;> exact hr
  | arrive request page => exact hfinish request _ (RoleDirectory.contains_arrive hr page)
  | fail request => exact hfinish request _ hr
  | drop request => exact hfinish request _ hr
  | ensure role' => exact RoleDirectory.contains_ensure hr role'
  | clear => exact absurd rfl h

/-! ### Every order of steps -/

/-- A fetch of a node is a start and, when that sends its query, the end of the request. -/
theorem directory_more {σ : Type} [AdminNode σ] (h : x.Guarded pageSize paging)
    (search : Option String) (node : σ) :
    (x.directory.more search node).2.1 =
      if x.waiting = [] then
        match (AdminNode.listRoles (x.directory.query search) node).1 with
        | .ok page => ((x.step (.start search)).step (.arrive x.sent.length page)).directory
        | .error _ => ((x.step (.start search)).step (.fail x.sent.length)).directory
      else (x.step (.start search)).directory := by
  by_cases hx : x.waiting = []
  · rw [if_pos hx]
    simp only [step, h.start_of_nil hx, Traffic.finish, List.mem_singleton, if_true]
    rw [RoleDirectory.more, RoleDirectory.start_of_idle (h.isLoading_of_nil hx)]
    rcases hlist : AdminNode.listRoles (x.directory.query search) node with ⟨answer, node'⟩
    cases answer <;> simp only [hlist]
  · rw [if_neg hx, RoleDirectory.more_of_loading (h.isLoading_of_ne_nil hx), step,
      h.start_of_ne_nil hx]

/-- Whatever steps were taken, the directory is loading exactly while its one request is
outstanding, and its next page starts behind the roles it knows. A fetch that starts while no
request is outstanding sends one query, for a whole page from the first role or from behind the
roles known then; nothing else sends any, so each query was sent by the fetch that started when the
queries in front of it had been sent. A fetch that starts meanwhile gives none and does nothing; a
request without an answer only frees the directory; and a known role stays known, until all are
forgotten, with its label when names are made known. -/
theorem single_request_of_run (pageSize : Nat) (paging : Paging) (events : List TrafficEvent) :
    ((run pageSize paging events).directory.isLoading = true ↔
        (run pageSize paging events).waiting.length = 1) ∧
      (run pageSize paging events).waiting.length ≤ 1 ∧
      (run pageSize paging events).directory.nextOffset =
        (run pageSize paging events).directory.size ∧
      (∀ earlier q later, (run pageSize paging events).sent = earlier ++ q :: later →
        ∃ before search after, events = before ++ .start search :: after ∧
          (run pageSize paging before).waiting = [] ∧
          (run pageSize paging before).sent = earlier ∧
          ((run pageSize paging before).directory.start search).1 = some q ∧
          q.limit = max 1 pageSize ∧
          q.offset = if RoleQuery.isSearch search = true ∨ paging = .firstPage then 0
            else (run pageSize paging before).directory.size) ∧
      (∀ event, (∀ search, event ≠ .start search) →
        ((run pageSize paging events).step event).sent = (run pageSize paging events).sent) ∧
      (∀ search, (run pageSize paging events).waiting = [] →
        ∃ q, ((run pageSize paging events).directory.start search).1 = some q ∧
          q.limit = max 1 pageSize ∧
          q.offset = (if RoleQuery.isSearch search = true ∨ paging = .firstPage then 0
            else (run pageSize paging events).directory.size) ∧
          (run pageSize paging events).step (.start search) =
            ⟨{ (run pageSize paging events).directory with isLoading := true },
              (run pageSize paging events).sent ++ [q],
              [(run pageSize paging events).sent.length]⟩) ∧
      (∀ search, (run pageSize paging events).waiting ≠ [] →
        (∀ (σ : Type) [AdminNode σ] (node : σ),
          (run pageSize paging events).directory.more search node =
            (.ok none, (run pageSize paging events).directory, node)) ∧
          (run pageSize paging events).step (.start search) = run pageSize paging events) ∧
      (∀ request ∈ (run pageSize paging events).waiting,
        ∀ event ∈ [TrafficEvent.fail request, TrafficEvent.drop request],
          (run pageSize paging events).step event =
            ⟨{ (run pageSize paging events).directory with isLoading := false },
              (run pageSize paging events).sent, []⟩) ∧
      (∀ event, event ≠ .clear → ∀ role,
        (run pageSize paging events).directory.contains role = true →
          ((run pageSize paging events).step event).directory.contains role = true) ∧
      ∀ role known label, (run pageSize paging events).directory.roles.get? known = some label →
        ((run pageSize paging events).step (.ensure role)).directory.roles.get? known =
          some label := by
  have h := guarded_run pageSize paging events
  refine ⟨h.guard, h.single, h.nextOffset, ?_, fun event ↦ sent_step _, ?_, ?_, ?_,
    fun event hevent role ↦ contains_step _ hevent, ?_⟩
  · intro earlier q later hsent
    obtain ⟨before, search, after, hevents, hidle, hbefore, rfl⟩ := exists_start_of_sent hsent
    have hguarded := guarded_run pageSize paging before
    refine ⟨before, search, after, hevents, hidle, hbefore, ?_, hguarded.query_eq search⟩
    rw [RoleDirectory.start_of_idle (hguarded.isLoading_of_nil hidle)]
  · intro search hx
    obtain ⟨hlimit, hoffset⟩ := h.query_eq search
    refine ⟨_, ?_, hlimit, hoffset, h.start_of_nil hx search⟩
    rw [RoleDirectory.start_of_idle (h.isLoading_of_nil hx)]
  · intro search hx
    exact ⟨fun σ _ node ↦ RoleDirectory.more_of_loading (h.isLoading_of_ne_nil hx) search node,
      h.start_of_ne_nil hx search⟩
  · intro request hr event hevent
    rcases List.mem_pair.mp hevent with rfl | rfl <;> exact h.finish_of_mem hr _
  · intro role known label hlabel
    exact RoleDirectory.get?_ensure hlabel role

end Traffic

end SeriesAcl
