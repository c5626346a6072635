import Mathlib.Data.List.Nodup
import SeriesAcl.Proofs.Access.Expansion
import SeriesAcl.Proofs.Access.Reading

/-!
# Rows and entries, there and back

Rows that name different roles come back from their own entries, those without grants aside
(`group_toEntries_eq_filter`). Entries come back from their rows as what these grant: each grant
once, and nothing besides. Where no role has an action twice, nothing but the order of the allowed
entries and the denials is lost (`group_eq_map_rowOf`), so the grants of a template come back.
-/

namespace SeriesAcl

variable {field : String}

/-- What an entry is about: an action of a role. -/
def Entry.about (e : Entry) : String × String :=
  (e.role, e.action)

/-- What an entry is about and what it says of it are all of it. -/
theorem Entry.eq_of_about {e e' : Entry} (h : e.about = e'.about) (ha : e.allow = e'.allow) :
    e = e' := by
  obtain ⟨role, action, allow⟩ := e
  obtain ⟨role', action', allow'⟩ := e'
  obtain ⟨rfl, rfl⟩ := Prod.mk.inj h
  obtain rfl : allow = allow' := ha
  rfl

/-- A built-in template speaks about each of its actions once. -/
theorem Template.nodup_about_expand {t : Template} (ht : t ∈ custom :: catalog)
    (org : Option String) (flags : Flags) : ((t.expand org flags).map Entry.about).Nodup := by
  rcases List.mem_cons.mp ht with rfl | ht
  · exact List.nodup_nil
  · obtain ⟨role, hr⟩ := exists_roleFor_of_mem ht org
    rw [expand_eq ht hr, List.map_map]
    have hpair : Entry.about ∘ (fun a : String × Bool ↦ (⟨role, a.1, a.2⟩ : Entry)) =
        (fun action ↦ (role, action)) ∘ Prod.fst := rfl
    rw [hpair, ← List.map_map]
    exact (nodup_terms ht flags).map fun _ _ h ↦ (Prod.mk.inj h).2

namespace Policy

/-! ### The entries of tidy rows -/

private theorem Tidy.nodup_entries {p : Policy} (h : p.Tidy field) : p.entries.Nodup := by
  obtain ⟨role, hr⟩ := h.named
  have hread : Action.read ∉ p.actions := fun hm ↦ (h.plain _ hm).1 rfl
  have hwrite : Action.write ∉ p.actions := fun hm ↦ (h.plain _ hm).2 rfl
  have hactions : ((if p.read then [Action.read] else []) ++
      (if p.write then [Action.write] else []) ++ p.actions).Nodup := by
    cases p.read <;> cases p.write <;> simp [hread, hwrite, h.nodup, read_ne_write]
  have hentries : p.entries = ((if p.read then [Action.read] else []) ++
      (if p.write then [Action.write] else []) ++ p.actions).map (Entry.allowed role) := by
    unfold entries
    rw [hr]
    cases p.read <;> cases p.write <;> rfl
  rw [hentries]
  exact hactions.map fun a b hab ↦ congrArg Entry.action hab

/-- Tidy rows of different roles have no entry twice. -/
theorem Tidied.nodup_toEntries {rows : List Policy} (h : Tidied field rows) :
    (toEntries rows).Nodup := by
  rw [toEntries_eq_flatMap, List.nodup_flatMap]
  refine ⟨fun p hp ↦ (h.tidy p hp).nodup_entries, ?_⟩
  refine (List.pairwise_map.mp h.distinct).imp fun {p q} hne e hp hq ↦ ?_
  exact hne ((mem_entries.mp hp).1.trans (mem_entries.mp hq).1.symm)

/-- The retainable ones among rows of different roles are tidied. -/
theorem tidied_filter_isRetainable {rows : List Policy} (hd : (rows.filterMap role).Nodup)
    (hf : ∀ p ∈ rows, p.field = field) (hn : ∀ p ∈ rows, p.actions.Nodup)
    (hp : ∀ p ∈ rows, Action.read ∉ p.actions ∧ Action.write ∉ p.actions) :
    Tidied field (rows.filter isRetainable) := by
  have hnamed : ∀ p : Policy, p.isRetainable = true → ∃ role, p.role = some role := by
    intro p hk
    exact Option.isSome_iff_exists.mp (Bool.and_eq_true_iff.mp hk).1
  constructor
  · intro p hm
    obtain ⟨hm, hk⟩ := List.mem_filter.mp hm
    refine ⟨hnamed p hk, hf p hm, hn p hm, ?_⟩
    rintro a ha
    exact ⟨fun h ↦ (hp p hm).1 (h ▸ ha), fun h ↦ (hp p hm).2 (h ▸ ha)⟩
  · have hdiffer := (List.pairwise_filterMap.mp hd).filter isRetainable
    refine List.pairwise_map.mpr (hdiffer.imp_of_mem ?_)
    intro p q hm _ hne heq
    obtain ⟨r, hr⟩ := hnamed p (List.mem_filter.mp hm).2
    exact hne r hr r (heq ▸ hr) rfl

/-! ### The entries of grouped rows -/

/-- Entries that speak about each action of a role once are taken at their word. -/
theorem mem_toEntries_group {entries : List Entry} (h : (entries.map Entry.about).Nodup)
    {e : Entry} : e ∈ toEntries (group entries field) ↔ e ∈ entries ∧ e.allow = true := by
  have hactions : ((entries.filter fun x ↦ x.role = e.role).map Entry.action).Nodup := by
    have habout : (entries.filter fun x ↦ x.role = e.role).map Entry.about =
        ((entries.filter fun x ↦ x.role = e.role).map Entry.action).map
          fun action ↦ (e.role, action) := by
      rw [List.map_map]
      apply List.map_congr_left
      intro x hx
      rw [Entry.about, of_decide_eq_true (List.mem_filter.mp hx).2]
      rfl
    have hsub : ((entries.filter fun x ↦ x.role = e.role).map Entry.about).Nodup :=
      h.sublist (List.filter_sublist.map Entry.about)
    rw [habout] at hsub
    exact hsub.of_map
  rw [mem_toEntries, ← mem_grants_toEntries, mem_grants_group, summary,
    allows_foldl_of_nodup e.role hactions]
  constructor
  · rintro ⟨hallow, x, hx, haction, hx'⟩
    obtain ⟨hx, hrole⟩ := List.mem_filter.mp hx
    have habout : x.about = e.about := Prod.ext (of_decide_eq_true hrole) haction
    exact ⟨Entry.eq_of_about habout (hx'.trans hallow.symm) ▸ hx, hallow⟩
  · rintro ⟨hm, hallow⟩
    exact ⟨hallow, e, List.mem_filter.mpr ⟨hm, decide_eq_true rfl⟩, rfl, hallow⟩

/-- Grouping such entries and writing the rows out keeps those that allow, in some order. -/
theorem toEntries_group_perm {entries : List Entry} (h : (entries.map Entry.about).Nodup) :
    (toEntries (group entries field)).Perm (entries.filter Entry.allow) := by
  rw [List.perm_ext_iff_of_nodup (tidied_group entries).nodup_toEntries (h.of_map.filter _)]
  intro e
  rw [mem_toEntries_group h, List.mem_filter]

/-! ### There and back -/

/-- Rows of different roles come back from their entries, those without grants aside. So what is
written from the rows of a list is read and written again without a change. -/
theorem group_toEntries_eq_filter (field : String) :
    (∀ rows : List Policy, (rows.filterMap role).Nodup → (∀ p ∈ rows, p.field = field) →
      (∀ p ∈ rows, p.actions.Nodup) →
      (∀ p ∈ rows, Action.read ∉ p.actions ∧ Action.write ∉ p.actions) →
      group (toEntries rows) field = rows.filter isRetainable) ∧
    ∀ entries : List Entry,
      toEntries (group (toEntries (group entries field)) field) =
        toEntries (group entries field) := by
  have hkeep : ∀ rows, toEntries (rows.filter isRetainable) = toEntries rows := by
    intro rows
    rw [toEntries, List.filter_filter]
    simp only [Bool.and_self]
    rfl
  constructor
  · intro rows hd hf hn hp
    rw [← hkeep, group_toEntries (tidied_filter_isRetainable hd hf hn hp), List.filter_filter]
    simp only [Bool.and_self]
  · intro entries
    rw [group_toEntries (tidied_group entries), hkeep]

/-- Rows as an editor may hold them: one that reads and writes, one without a role, one that names
an action and one that grants nothing. -/
def mixedRows : List Policy :=
  [readWrite "ROLE_A" seriesField, blank none seriesField,
    ⟨some "ROLE_B", false, true, seriesField, [Action.castView, Action.castDiscover]⟩,
    blank (some "ROLE_C") seriesField]

/-- Of these rows the empty one and the one that grants nothing do not come back. -/
theorem group_toEntries_mixedRows :
    (mixedRows.filterMap role).Nodup ∧ (∀ p ∈ mixedRows, p.field = seriesField) ∧
      (∀ p ∈ mixedRows, p.actions.Nodup) ∧
      (∀ p ∈ mixedRows, Action.read ∉ p.actions ∧ Action.write ∉ p.actions) ∧
      group (toEntries mixedRows) seriesField = mixedRows.filter isRetainable :=
  ⟨by decide, by decide, by decide, by decide,
    (group_toEntries_eq_filter seriesField).1 mixedRows (by decide) (by decide) (by decide)
      (by decide)⟩

/-- What the rows of a list are, and what is written from them: a row for every role as the entries
tell it, no entry twice, and the allowed entries in some order when no two entries are about one
action of a role. So what a template grants comes back. -/
theorem group_eq_map_rowOf (entries : List Entry) (field : String) :
    group entries field = (firstSeen entries).map (rowOf field entries) ∧
      (toEntries (group entries field)).Nodup ∧
      ((entries.map Entry.about).Nodup →
        (toEntries (group entries field)).Perm (entries.filter Entry.allow)) ∧
      ∀ t ∈ Template.custom :: Template.catalog, ∀ (org : Option String) (flags : Flags),
        (toEntries (group (t.expand org flags) field)).Perm
          ((t.expand org flags).filter Entry.allow) := by
  refine ⟨group_eq entries field, (tidied_group entries).nodup_toEntries, toEntries_group_perm, ?_⟩
  intro t ht org flags
  exact toEntries_group_perm (Template.nodup_about_expand ht org flags)

/-- A list that comes back in another order and without its denial. -/
def shuffledList : List Entry :=
  [Entry.allowed "ROLE_A" Action.castView, Entry.denied "ROLE_B" Action.read,
    Entry.allowed "ROLE_A" Action.read]

/-- The list comes back without its denial, and so does the private template. -/
theorem group_eq_map_rowOf_shuffledList :
    (shuffledList.map Entry.about).Nodup ∧
      (toEntries (group shuffledList seriesField)).Perm (shuffledList.filter Entry.allow) ∧
      Template.privateSeries ∈ Template.custom :: Template.catalog ∧
      (toEntries (group (Template.privateSeries.expand none ⟨true, false⟩) seriesField)).Perm
        ((Template.privateSeries.expand none ⟨true, false⟩).filter Entry.allow) :=
  ⟨by decide, (group_eq_map_rowOf shuffledList seriesField).2.2.1 (by decide), by decide,
    (group_eq_map_rowOf shuffledList seriesField).2.2.2 _ (by decide) none ⟨true, false⟩⟩

end Policy

end SeriesAcl
