import Mathlib.Data.List.Induction
import Mathlib.Data.List.Nodup
import SeriesAcl.Admin.Store
import SeriesAcl.Roles.Fetch

/-!
# Paging through the roles of a node

A directory that advances asks for the page behind as many roles as it knows. Roles that were made
known by name count as well, so each of them that the node does not list may hide a role of the
node. Once a page without a search comes back empty, no more roles are missing than the directory
knows that the node does not list, and none is missing when all the names are roles of the node
(`contains_of_more_eq_zero`).
-/

namespace SeriesAcl.RoleDirectory

/-- What happens to a directory and its node: a call on the directory as a whole, or other
operations of the node fail from now on. -/
inductive Event where
  | ensure (role : String)
  | clear
  | more (search : Option String)
  | fail (operations : List Operation)

/-- The directory and its node after an event. -/
def step (state : RoleDirectory × Store) : Event → RoleDirectory × Store
  | .ensure role => (state.1.ensure role, state.2)
  | .clear => (state.1.clear, state.2)
  | .more search => (state.1.more search state.2).2
  | .fail operations => (state.1, { state.2 with failing := operations })

/-- A new directory and its node after some events. -/
def run (pageSize : Nat) (s : Store) (events : List Event) : RoleDirectory × Store :=
  events.foldl step (make pageSize .advance, s)

/-- The names made known one by one, after an event. -/
def ensuredStep (names : List String) : Event → List String
  | .ensure role => names ++ [role]
  | .clear => []
  | .more _ => names
  | .fail _ => names

/-- The names made known one by one since the directory was emptied last. -/
def ensured (events : List Event) : List String :=
  events.foldl ensuredStep []

/-- The names of a list of roles that a directory does not know. -/
def missing (d : RoleDirectory) (listed : List RoleEntry) : List String :=
  (listed.map RoleEntry.name).filter fun role ↦ !d.contains role

/-- The roles of a directory that a list does not have. -/
def unlisted (d : RoleDirectory) (listed : List RoleEntry) : List String :=
  d.roles.keys.filter fun role ↦ role ∉ listed.map RoleEntry.name

/-- A directory between two calls, filled from a list of roles and with some names. -/
structure Filled (listed : List RoleEntry) (names : List String) (d : RoleDirectory) : Prop where
  paging : d.paging = .advance
  pageSize_pos : 0 < d.pageSize
  idle : d.isLoading = false
  sorted : d.roles.Sorted
  nextOffset : d.nextOffset = d.size
  known : ∀ role, d.contains role = true → role ∈ listed.map RoleEntry.name ∨ role ∈ names

variable {listed : List RoleEntry} {names : List String} {d : RoleDirectory}

/-! ### Pages -/

private theorem wantedName_targetFilter : Store.wantedName RoleQuery.targetFilter = none := by
  decide

private theorem mem_of_mem_page {roles : List RoleEntry} {q : RoleQuery} {r : RoleEntry}
    (h : r ∈ Store.page roles q) : r ∈ roles := by
  have hm := List.mem_of_mem_drop (List.mem_of_mem_take h)
  split at hm
  · exact hm
  · exact List.mem_of_mem_filter hm

/-- Without a search the page is the next part of the list. -/
theorem page_query (hp : d.paging = .advance) {search : Option String}
    (hs : RoleQuery.searchText search = none) (roles : List RoleEntry) :
    Store.page roles (d.query search) = (roles.drop d.nextOffset).take d.pageSize := by
  have hq : d.query search = ⟨d.pageSize, d.nextOffset, RoleQuery.targetFilter⟩ := by
    simp only [query, hp, RoleQuery.make, hs]
  rw [hq, Store.page]
  simp only [wantedName_targetFilter]

/-- A fetch from a store while no other one is outstanding. -/
theorem more_eq (hd : d.isLoading = false) (search : Option String) (s : Store) :
    d.more search s =
      if .listRoles ∈ s.failing then
        (.error (Error.operationFailed Operation.listRoles.name), d, s)
      else
        (.ok (some (Store.page s.roles (d.query search)).length),
          d.arrive (Store.page s.roles (d.query search)),
          { s with roleQueries := s.roleQueries ++ [d.query search] }) := by
  obtain ⟨pageSize, paging, roles, nextOffset, isLoading⟩ := d
  subst hd
  simp only [more, start, AdminNode.listRoles, Store.listRoles, Store.guarded]
  by_cases h : Operation.listRoles ∈ s.failing
  · simp [h, giveUp]
  · simp [h, arrive]

/-! ### One event -/

/-- A role is known when it is on the page or was known before. -/
theorem contains_absorb (roles : Dict String) (page : List RoleEntry) (role : String) :
    (absorb roles page).contains role = true ↔
      role ∈ page.map RoleEntry.name ∨ roles.contains role = true := by
  induction page generalizing roles with
  | nil => simp [absorb]
  | cons r rest ih =>
    have hstep : absorb roles (r :: rest) = absorb (roles.insert r.name r.label) rest := rfl
    rw [hstep, ih, Dict.contains_insert, List.map_cons, List.mem_cons]
    tauto

private theorem sorted_absorb {roles : Dict String} (h : roles.Sorted) (page : List RoleEntry) :
    (absorb roles page).Sorted := by
  induction page generalizing roles with
  | nil => exact h
  | cons r rest ih => exact ih (h.insert r.name r.label)

private theorem filled_make (listed : List RoleEntry) (pageSize : Nat) :
    Filled listed [] (make pageSize .advance) where
  paging := rfl
  pageSize_pos := Nat.lt_of_lt_of_le Nat.one_pos (Nat.le_max_left 1 pageSize)
  idle := rfl
  sorted := Dict.sorted_empty
  nextOffset := rfl
  known := fun _ h ↦ Bool.noConfusion h

namespace Filled

private theorem ensure (h : Filled listed names d) (role : String) :
    Filled listed (names ++ [role]) (d.ensure role) := by
  have hknown : ∀ r, d.contains r = true →
      r ∈ listed.map RoleEntry.name ∨ r ∈ names ++ [role] := by
    intro r hr
    exact (h.known r hr).imp id (List.mem_append_left _)
  unfold RoleDirectory.ensure
  split
  · exact ⟨h.paging, h.pageSize_pos, h.idle, h.sorted, h.nextOffset, hknown⟩
  · refine ⟨h.paging, h.pageSize_pos, h.idle, h.sorted.insert role role, rfl, ?_⟩
    intro r hr
    rcases (Dict.contains_insert _ _ _ _).mp hr with rfl | hr
    · exact .inr (List.mem_append_right _ List.mem_cons_self)
    · exact hknown r hr

private theorem clear (h : Filled listed names d) : Filled listed [] d.clear where
  paging := h.paging
  pageSize_pos := h.pageSize_pos
  idle := h.idle
  sorted := Dict.sorted_empty
  nextOffset := rfl
  known := fun _ h ↦ Bool.noConfusion h

private theorem arrive (h : Filled listed names d) {page : List RoleEntry}
    (hp : ∀ r ∈ page, r ∈ listed) :
    Filled listed names (d.arrive page) where
  paging := h.paging
  pageSize_pos := h.pageSize_pos
  idle := rfl
  sorted := sorted_absorb h.sorted page
  nextOffset := rfl
  known := by
    intro role hr
    rcases (contains_absorb _ _ _).mp hr with hr | hr
    · obtain ⟨r, hm, rfl⟩ := List.mem_map.mp hr
      exact .inl (List.mem_map_of_mem (hp r hm))
    · exact h.known role hr

/-- An event keeps a directory filled, and the list of the node as it is. -/
theorem step {state : RoleDirectory × Store} (h : Filled state.2.roles names state.1)
    (event : Event) :
    Filled state.2.roles (ensuredStep names event) (RoleDirectory.step state event).1 ∧
      (RoleDirectory.step state event).2.roles = state.2.roles := by
  cases event with
  | ensure role => exact ⟨h.ensure role, rfl⟩
  | clear => exact ⟨h.clear, rfl⟩
  | fail operations => exact ⟨h, rfl⟩
  | more search =>
    rw [RoleDirectory.step, more_eq h.idle]
    split
    · exact ⟨h, rfl⟩
    · exact ⟨h.arrive fun r hr ↦ mem_of_mem_page hr, rfl⟩

end Filled

/-- A run leaves a directory that is filled from the list of the node and with the names since the
directory was emptied last. -/
theorem filled_run (pageSize : Nat) (s : Store) (events : List Event) :
    Filled s.roles (ensured events) (run pageSize s events).1 ∧
      (run pageSize s events).2.roles = s.roles := by
  induction events using List.reverseRecOn with
  | nil => exact ⟨filled_make s.roles pageSize, rfl⟩
  | append_singleton rest event ih =>
    obtain ⟨hf, hr⟩ := ih
    rw [← hr] at hf
    have hstep := hf.step event
    rw [hr] at hstep
    rw [run, ensured, List.foldl_append, List.foldl_append]
    exact hstep

/-! ### Empty pages -/

/-- The page behind the known roles is empty exactly when as many roles are known as the node
lists, and the fetch brings nothing new then. -/
theorem Filled.more_eq_zero_iff (hd : Filled listed names d) {search : Option String}
    (hs : RoleQuery.searchText search = none) {d' : RoleDirectory} {s s' : Store} :
    d.more search s = (.ok (some 0), d', s') ↔
      .listRoles ∉ s.failing ∧ s.roles.length ≤ d.size ∧ d' = d.arrive [] ∧
        s' = { s with roleQueries := s.roleQueries ++ [d.query search] } := by
  have hempty : (s.roles.drop d.nextOffset).take d.pageSize = [] ↔ s.roles.length ≤ d.size := by
    rw [← List.length_eq_zero_iff, List.length_take, List.length_drop, hd.nextOffset]
    have := hd.pageSize_pos
    omega
  rw [more_eq hd.idle, page_query hd.paging hs, ← hempty]
  by_cases hf : Operation.listRoles ∈ s.failing
  · simp [hf]
  · rw [if_neg hf]
    constructor
    · intro h
      obtain ⟨hlength, hrest⟩ := Prod.mk.inj h
      have hnil := List.eq_nil_of_length_eq_zero (Option.some.inj (Except.ok.inj hlength))
      rw [hnil] at hrest
      obtain ⟨rfl, rfl⟩ := Prod.mk.inj hrest
      exact ⟨hf, hnil, rfl, rfl⟩
    · rintro ⟨-, hnil, rfl, rfl⟩
      rw [hnil]
      rfl

/-- The roles of a list that are missing and the roles beside the list make up for each other. -/
theorem length_missing_add_size (hn : (listed.map RoleEntry.name).Nodup) (hs : d.roles.Sorted) :
    (d.missing listed).length + d.size = listed.length + (d.unlisted listed).length := by
  have hshared : ((listed.map RoleEntry.name).filter fun role ↦ d.contains role).length =
      (d.roles.keys.filter fun role ↦ role ∈ listed.map RoleEntry.name).length := by
    refine ((List.perm_ext_iff_of_nodup (hn.filter _) (hs.nodup_keys.filter _)).mpr ?_).length_eq
    intro role
    rw [List.mem_filter, List.mem_filter, decide_eq_true_iff, ← Dict.contains_iff_mem_keys]
    exact and_comm
  have hnames := List.length_eq_length_filter_add (l := listed.map RoleEntry.name)
    fun role ↦ d.contains role
  have hkeys := List.length_eq_length_filter_add (l := d.roles.keys)
    fun role ↦ decide (role ∈ listed.map RoleEntry.name)
  have hsize : d.roles.keys.length = d.size := List.length_map _
  rw [List.length_map] at hnames
  unfold missing unlisted
  simp only [decide_not]
  omega

private theorem missing_eq_nil_iff :
    d.missing listed = [] ↔ ∀ r ∈ listed, d.contains r.name = true := by
  simp [missing]

/-- A role beside the list was made known by name. -/
theorem Filled.mem_of_mem_unlisted (h : Filled listed names d) {role : String}
    (hr : role ∈ d.unlisted listed) : role ∈ names := by
  obtain ⟨hkey, hunlisted⟩ := List.mem_filter.mp hr
  rcases h.known role ((Dict.contains_iff_mem_keys _ _).mpr hkey) with hm | hm
  · exact absurd hm (of_decide_eq_true hunlisted)
  · exact hm

private theorem Filled.unlisted_eq_nil (h : Filled listed names d)
    (hall : ∀ role ∈ names, role ∈ listed.map RoleEntry.name) : d.unlisted listed = [] := by
  rw [List.eq_nil_iff_forall_not_mem]
  intro role hr
  exact of_decide_eq_true (List.mem_filter.mp hr).2 (hall role (h.mem_of_mem_unlisted hr))

/-- When a page without a search comes back empty, the directory lacks no more roles of the node
than it knows roles that the node does not list, all of which were made known by name. So when all
these names are roles of the node, no role of the node is missing. -/
theorem contains_of_more_eq_zero (s : Store) (hn : (s.roles.map RoleEntry.name).Nodup)
    (pageSize : Nat) (events : List Event) {search : Option String}
    (hs : RoleQuery.searchText search = none) {d : RoleDirectory} {s' : Store}
    (h : (run pageSize s events).1.more search (run pageSize s events).2 =
      (.ok (some 0), d, s')) :
    (d.missing s.roles).length ≤ (d.unlisted s.roles).length ∧
      (∀ role ∈ d.unlisted s.roles, role ∈ ensured events) ∧
      ((∀ role ∈ ensured events, role ∈ s.roles.map RoleEntry.name) →
        ∀ r ∈ s.roles, d.contains r.name = true) := by
  obtain ⟨hbefore, hroles⟩ := filled_run pageSize s events
  obtain ⟨-, hsize, hd, -⟩ := (hbefore.more_eq_zero_iff hs).mp h
  have hfilled : Filled s.roles (ensured events) d := by
    rw [hd]
    exact hbefore.arrive fun r hr ↦ absurd hr List.not_mem_nil
  have hle : (d.missing s.roles).length ≤ (d.unlisted s.roles).length := by
    have hcount := length_missing_add_size hn hfilled.sorted
    -- An empty page leaves the known roles as they are.
    have hsame : d.size = (run pageSize s events).1.size := by rw [hd]; rfl
    rw [hroles] at hsize
    omega
  refine ⟨hle, fun role ↦ hfilled.mem_of_mem_unlisted, fun hall ↦ ?_⟩
  rw [hfilled.unlisted_eq_nil hall] at hle
  exact missing_eq_nil_iff.mp (List.eq_nil_of_length_eq_zero (Nat.le_zero.mp hle))

/-- A node that lists one role. -/
def oneRole : Store :=
  { Store.empty with roles := [⟨"ROLE_A", none⟩] }

/-- A name that the node does not list hides its only role. -/
theorem not_contains_ensured_stranger :
    ¬∀ (s : Store), (s.roles.map RoleEntry.name).Nodup → ∀ (pageSize : Nat) (events : List Event)
      (search : Option String), RoleQuery.searchText search = none → ∀ (d : RoleDirectory)
      (s' : Store), (run pageSize s events).1.more search (run pageSize s events).2 =
        (.ok (some 0), d, s') → ∀ r ∈ s.roles, d.contains r.name = true := by
  intro h
  have hmore : (run 100 oneRole [.ensure "ROLE_X"]).1.more none
      (run 100 oneRole [.ensure "ROLE_X"]).2 =
        (.ok (some 0), (run 100 oneRole [.ensure "ROLE_X"]).1.arrive [],
          { oneRole with roleQueries := [⟨100, 1, RoleQuery.targetFilter⟩] }) := by
    rfl
  have hknown := h oneRole (by decide) 100 [.ensure "ROLE_X"] none rfl _ _ hmore ⟨"ROLE_A", none⟩
    List.mem_cons_self
  revert hknown
  decide

/-- A node that lists two roles. -/
def twoRoles : Store :=
  { Store.empty with roles := [⟨"ROLE_A", none⟩, ⟨"ROLE_B", some "Staff"⟩] }

/-- The first role is made known by name, and the page behind it is fetched. -/
def knownThenPaged : List Event :=
  [.ensure "ROLE_A", .more none]

/-- With nothing left on the page, both roles are known. -/
theorem contains_of_more_eq_zero_twoRoles :
    (twoRoles.roles.map RoleEntry.name).Nodup ∧ RoleQuery.searchText none = none ∧
      (run 2 twoRoles knownThenPaged).1.more none (run 2 twoRoles knownThenPaged).2 =
        (.ok (some 0), (run 2 twoRoles knownThenPaged).1.arrive [],
          { twoRoles with roleQueries :=
              [⟨2, 1, RoleQuery.targetFilter⟩, ⟨2, 2, RoleQuery.targetFilter⟩] }) ∧
      (∀ role ∈ ensured knownThenPaged, role ∈ twoRoles.roles.map RoleEntry.name) ∧
      ∀ r ∈ twoRoles.roles,
        ((run 2 twoRoles knownThenPaged).1.arrive []).contains r.name = true :=
  have hmore : (run 2 twoRoles knownThenPaged).1.more none (run 2 twoRoles knownThenPaged).2 =
      (.ok (some 0), (run 2 twoRoles knownThenPaged).1.arrive [],
        { twoRoles with roleQueries :=
            [⟨2, 1, RoleQuery.targetFilter⟩, ⟨2, 2, RoleQuery.targetFilter⟩] }) := by
    rfl
  have hlisted : ∀ role ∈ ensured knownThenPaged, role ∈ twoRoles.roles.map RoleEntry.name := by
    decide
  ⟨by decide, rfl, hmore, hlisted,
    (contains_of_more_eq_zero twoRoles (by decide) 2 knownThenPaged rfl hmore).2.2 hlisted⟩

end SeriesAcl.RoleDirectory
