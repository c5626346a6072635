import Mathlib.Data.List.Induction
import Mathlib.Data.List.Sort
import SeriesAcl.Dict

/-!
# What is found in a dictionary

Entries are found by key, in lists that are cut, mapped or put together from others. A dictionary
that is made from a list holds the last entry of every key (`get?_ofList`), and one in key order is
given by what is found in it (`Sorted.ext`).
-/

namespace SeriesAcl

namespace Dict

variable {α β : Type} {key : String}

/-! ### What is found -/

/-- A key is looked up in the first list before the second. -/
theorem lookup_append (key : String) (xs ys : List (String × α)) :
    lookup key (xs ++ ys) = (lookup key xs).or (lookup key ys) := by
  induction xs with
  | nil => rfl
  | cons e rest ih =>
    rw [List.cons_append, lookup, lookup, ih]
    split <;> rfl

/-- A value that is found is the image of the one that was there. -/
theorem lookup_map (f : α → β) (key : String) (entries : List (String × α)) :
    lookup key (entries.map fun e ↦ (e.1, f e.2)) = (lookup key entries).map f := by
  induction entries with
  | nil => rfl
  | cons e rest ih =>
    rw [List.map_cons, lookup, lookup, ih]
    split <;> rfl

/-- A key that is kept is found as before, any other one is not. -/
theorem lookup_filter (keep : String → Bool) (key : String) (entries : List (String × α)) :
    lookup key (entries.filter fun e ↦ keep e.1) =
      if keep key then lookup key entries else none := by
  induction entries with
  | nil => cases keep key <;> rfl
  | cons e rest ih =>
    by_cases he : e.1 = key
    · subst he
      by_cases hk : keep e.1 = true <;> simp [lookup, hk, ih]
    · by_cases hk : keep e.1 = true <;> simp [lookup, hk, he, ih]

/-- What is found is in the list. -/
theorem mem_of_lookup {entries : List (String × α)} {value : α}
    (h : lookup key entries = some value) : (key, value) ∈ entries := by
  induction entries with
  | nil => cases h
  | cons e rest ih =>
    rw [lookup] at h
    split at h
    · next he =>
      rw [← he, ← Option.some.inj h]
      exact List.mem_cons_self
    · exact List.mem_cons_of_mem _ (ih h)

/-- A key that nothing has is not found. -/
theorem lookup_eq_none {entries : List (String × α)} (h : ∀ e ∈ entries, e.1 ≠ key) :
    lookup key entries = none := by
  induction entries with
  | nil => rfl
  | cons e rest ih =>
    rw [lookup, if_neg (h e List.mem_cons_self)]
    exact ih fun x hx ↦ h x (List.mem_cons_of_mem _ hx)

/-- Where no key stands twice, every entry is found. -/
theorem lookup_eq_some_iff {entries : List (String × α)} (h : (entries.map Prod.fst).Nodup)
    {value : α} : lookup key entries = some value ↔ (key, value) ∈ entries := by
  refine ⟨mem_of_lookup, fun hmem ↦ ?_⟩
  induction entries with
  | nil => cases hmem
  | cons e rest ih =>
    obtain ⟨hfirst, hrest⟩ := List.nodup_cons.mp h
    rcases List.mem_cons.mp hmem with rfl | hmem
    · rw [lookup, if_pos rfl]
    · have hne : e.1 ≠ key := by
        rintro rfl
        exact hfirst (List.mem_map.mpr ⟨_, hmem, rfl⟩)
      rw [lookup, if_neg hne]
      exact ih hrest hmem

/-- Where every key stands once, the order makes no difference. -/
theorem lookup_reverse {entries : List (String × α)} (h : (entries.map Prod.fst).Nodup) :
    lookup key entries.reverse = lookup key entries := by
  have hreverse : (entries.reverse.map Prod.fst).Nodup := by
    rw [List.map_reverse, List.nodup_reverse]
    exact h
  ext value
  rw [lookup_eq_some_iff hreverse, lookup_eq_some_iff h, List.mem_reverse]

/-! ### Dictionaries from lists -/

private theorem ofList_concat (entries : List (String × α)) (e : String × α) :
    ofList (entries ++ [e]) = (ofList entries).insert e.1 e.2 := by
  rw [ofList, List.foldl_append]
  rfl

/-- Of several entries of a key the last one is found. -/
theorem get?_ofList (entries : List (String × α)) (key : String) :
    (ofList entries).get? key = lookup key entries.reverse := by
  induction entries using List.reverseRecOn with
  | nil => rfl
  | append_singleton rest e ih =>
    rw [ofList_concat, get?_insert, ih, List.reverse_append]
    rfl

/-- The entries of a dictionary are among those that it was made of. -/
theorem mem_of_mem_ofList {entries : List (String × α)} {e : String × α}
    (h : e ∈ (ofList entries).entries) : e ∈ entries := by
  have hget : (ofList entries).get? e.1 = some e.2 :=
    (lookup_eq_some_iff (sorted_ofList entries).nodup_keys).mpr h
  rw [get?_ofList] at hget
  exact List.mem_reverse.mp (mem_of_lookup hget)

/-! ### Dictionaries in key order -/

/-- Two dictionaries in key order in which the same is found are equal. -/
theorem Sorted.ext {d d' : Dict α} (h : d.Sorted) (h' : d'.Sorted)
    (hget : ∀ key, d.get? key = d'.get? key) : d = d' := by
  obtain ⟨entries⟩ := d
  obtain ⟨entries'⟩ := d'
  congr 1
  refine h.eq_of_mem_iff h' fun e ↦ ?_
  rw [← lookup_eq_some_iff h.nodup_keys, ← lookup_eq_some_iff h'.nodup_keys]
  exact Eq.congr_left (hget e.1)

end Dict

end SeriesAcl
