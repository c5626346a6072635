/-!
# Dictionaries in key order

A dictionary from texts to values, held as its entries in ascending key order. Keys are ordered by
code point, which is also the order of their UTF-8 bytes. The operations are total on any list of
entries; the laws that need the order take `Sorted` as a hypothesis, and every operation keeps it.
-/

namespace SeriesAcl

/-- A dictionary as the list of its entries. -/
structure Dict (α : Type) where
  entries : List (String × α)
  deriving Repr

namespace Dict

variable {α β : Type}

/-- The dictionary without entries. -/
def empty : Dict α := ⟨[]⟩

/-- There is a dictionary at least, the empty one. -/
instance : Inhabited (Dict α) := ⟨empty⟩

/-- The entries stand in strictly ascending key order, so no key occurs twice. -/
def Sorted (d : Dict α) : Prop :=
  d.entries.Pairwise fun a b ↦ a.1 < b.1

/-- The value at the first entry for `key` of a list of entries. -/
def lookup (key : String) : List (String × α) → Option α
  | [] => none
  | (k, v) :: rest => if k = key then some v else lookup key rest

/-- The value at `key`. -/
def get? (d : Dict α) (key : String) : Option α :=
  lookup key d.entries

/-- Whether `key` has a value. -/
def contains (d : Dict α) (key : String) : Bool :=
  (d.get? key).isSome

/-- The keys in ascending order. -/
def keys (d : Dict α) : List String :=
  d.entries.map (·.1)

/-- The number of entries. -/
def size (d : Dict α) : Nat :=
  d.entries.length

/-- Whether there is no entry. -/
def isEmpty (d : Dict α) : Bool :=
  d.entries.isEmpty

/-- An entry put at its place in a list in key order, in the place of one with the same key. -/
def place (key : String) (value : α) : List (String × α) → List (String × α)
  | [] => [(key, value)]
  | (k, v) :: rest =>
    if key < k then (key, value) :: (k, v) :: rest
    else if key = k then (key, value) :: rest
    else (k, v) :: place key value rest

/-- The dictionary with `value` at `key`. -/
def insert (d : Dict α) (key : String) (value : α) : Dict α :=
  ⟨place key value d.entries⟩

/-- The dictionary without `key`. -/
def erase (d : Dict α) (key : String) : Dict α :=
  ⟨d.entries.filter fun e ↦ e.1 ≠ key⟩

/-- The dictionary with the entries of a list; of two with one key the later one counts. -/
def ofList (entries : List (String × α)) : Dict α :=
  entries.foldl (fun d e ↦ d.insert e.1 e.2) empty

/-- The entries of `top` laid over those of `d`. -/
def merge (d top : Dict α) : Dict α :=
  top.entries.foldl (fun d e ↦ d.insert e.1 e.2) d

/-- The dictionary with `f` applied to every value. -/
def mapValues (f : α → β) (d : Dict α) : Dict β :=
  ⟨d.entries.map fun e ↦ (e.1, f e.2)⟩

/-- A placed entry is found under its key, and nothing changes for the others. -/
theorem lookup_place (key key' : String) (value : α) (entries : List (String × α)) :
    lookup key' (place key value entries) =
      if key = key' then some value else lookup key' entries := by
  induction entries with
  | nil => simp [place, lookup]
  | cons e rest ih =>
    obtain ⟨k, v⟩ := e
    simp only [place]
    split
    · simp [lookup]
    · split
      · next h => subst h; by_cases hk : key = key' <;> simp [lookup, hk]
      · next h =>
        simp only [lookup, ih]
        by_cases hk : k = key'
        · subst hk; simp [h]
        · simp [hk]

/-- Reading after an insertion. -/
theorem get?_insert (d : Dict α) (key key' : String) (value : α) :
    (d.insert key value).get? key' = if key = key' then some value else d.get? key' :=
  lookup_place key key' value d.entries

/-- Reading after an erasure. -/
theorem get?_erase (d : Dict α) (key key' : String) :
    (d.erase key).get? key' = if key = key' then none else d.get? key' := by
  obtain ⟨entries⟩ := d
  unfold erase get?
  dsimp only
  induction entries with
  | nil => simp [lookup]
  | cons e rest ih =>
    obtain ⟨k, v⟩ := e
    by_cases hk : k = key
    · rw [List.filter_cons_of_neg (by simp [hk]), ih, lookup]
      by_cases h : key = key' <;> simp [hk, h]
    · rw [List.filter_cons_of_pos (by simp [hk]), lookup, ih, lookup]
      by_cases h : k = key'
      · simp [← h, Ne.symm hk]
      · simp [h]

/-- A key has a value exactly when it is one of the keys. -/
theorem contains_iff_mem_keys (d : Dict α) (key : String) :
    d.contains key = true ↔ key ∈ d.keys := by
  obtain ⟨entries⟩ := d
  unfold contains get? keys
  induction entries with
  | nil => simp [lookup]
  | cons e rest ih =>
    obtain ⟨k, v⟩ := e
    by_cases h : k = key
    · simp [lookup, h]
    · simp [lookup, h, Ne.symm h, ih]

/-- The keys after an insertion: the new one, and the old ones. -/
theorem contains_insert (d : Dict α) (key key' : String) (value : α) :
    (d.insert key value).contains key' = true ↔ key = key' ∨ d.contains key' = true := by
  unfold contains
  rw [get?_insert]
  by_cases h : key = key' <;> simp [h]

/-- The entries after placing one: the new one, or an old one. -/
theorem mem_place {key : String} {value : α} {entries : List (String × α)} {e : String × α}
    (h : e ∈ place key value entries) : e = (key, value) ∨ e ∈ entries := by
  induction entries with
  | nil => simpa [place] using h
  | cons f rest ih =>
    obtain ⟨k, v⟩ := f
    simp only [place] at h
    split at h
    · simpa using h
    · split at h
      · exact (List.mem_cons.1 h).imp id (List.mem_cons_of_mem _)
      · rcases List.mem_cons.1 h with rfl | h
        · exact .inr List.mem_cons_self
        · exact (ih h).imp id (List.mem_cons_of_mem _)

/-- Placing an entry keeps the order. -/
theorem pairwise_place {key : String} {value : α} {entries : List (String × α)}
    (h : entries.Pairwise fun a b ↦ a.1 < b.1) :
    (place key value entries).Pairwise fun a b ↦ a.1 < b.1 := by
  induction entries with
  | nil => simp [place]
  | cons f rest ih =>
    obtain ⟨k, v⟩ := f
    obtain ⟨hk, hrest⟩ := List.pairwise_cons.1 h
    simp only [place]
    split
    · next hlt =>
      refine List.pairwise_cons.2 ⟨fun e he ↦ ?_, h⟩
      rcases List.mem_cons.1 he with rfl | he
      · exact hlt
      · exact String.lt_trans hlt (hk e he)
    · split
      · next heq => exact List.pairwise_cons.2 ⟨fun e he ↦ heq ▸ hk e he, hrest⟩
      · next hnlt hne =>
        refine List.pairwise_cons.2 ⟨fun e he ↦ ?_, ih hrest⟩
        rcases mem_place he with rfl | he
        · exact Std.lt_of_le_of_ne (String.not_lt.1 hnlt) (Ne.symm hne)
        · exact hk e he

/-- The empty dictionary is in order. -/
theorem sorted_empty : (empty : Dict α).Sorted :=
  List.Pairwise.nil

/-- Insertion keeps the order. -/
theorem Sorted.insert {d : Dict α} (h : d.Sorted) (key : String) (value : α) :
    (d.insert key value).Sorted :=
  pairwise_place h

/-- Erasure keeps the order. -/
theorem Sorted.erase {d : Dict α} (h : d.Sorted) (key : String) : (d.erase key).Sorted :=
  List.Pairwise.filter _ h

/-- Insertions one after another keep the order. -/
theorem Sorted.merge {d : Dict α} (h : d.Sorted) (top : Dict α) : (d.merge top).Sorted := by
  obtain ⟨entries⟩ := top
  simp only [Dict.merge]
  induction entries generalizing d with
  | nil => exact h
  | cons e rest ih => exact ih (h.insert e.1 e.2)

/-- In a dictionary in order no key stands twice. -/
theorem Sorted.nodup_keys {d : Dict α} (h : d.Sorted) : d.keys.Nodup := by
  refine List.pairwise_map.2 (h.imp ?_)
  intro a b hab heq
  exact String.lt_irrefl b.1 (heq ▸ hab)

/-- A dictionary made from a list is in order. -/
theorem sorted_ofList (entries : List (String × α)) : (ofList entries).Sorted :=
  sorted_empty.merge ⟨entries⟩

/-- An entry behind all others is placed at the end. -/
theorem place_of_lt {key : String} (value : α) {entries : List (String × α)}
    (h : ∀ e ∈ entries, e.1 < key) : place key value entries = entries ++ [(key, value)] := by
  induction entries with
  | nil => rfl
  | cons e rest ih =>
    obtain ⟨k, v⟩ := e
    have hk : k < key := h (k, v) List.mem_cons_self
    have hne : key ≠ k := by
      rintro rfl
      exact String.lt_irrefl _ hk
    rw [place, if_neg (String.lt_asymm hk), if_neg hne,
      ih fun e he ↦ h e (List.mem_cons_of_mem _ he)]
    rfl

/-- Entries in key order, all behind those there are, are laid at the end. -/
theorem entries_merge {d top : Dict α} (h : top.Sorted)
    (hd : ∀ e ∈ d.entries, ∀ f ∈ top.entries, e.1 < f.1) :
    (d.merge top).entries = d.entries ++ top.entries := by
  obtain ⟨entries⟩ := top
  simp only [Dict.merge]
  induction entries generalizing d with
  | nil => exact (List.append_nil _).symm
  | cons e rest ih =>
    obtain ⟨hfirst, hrest⟩ := List.pairwise_cons.1 h
    have hplace : (d.insert e.1 e.2).entries = d.entries ++ [e] :=
      place_of_lt e.2 fun f hf ↦ hd f hf e List.mem_cons_self
    rw [List.foldl_cons, ih hrest, hplace, List.append_assoc]
    · rfl
    · intro f hf g hg
      rw [hplace] at hf
      rcases List.mem_append.1 hf with hf | hf
      · exact hd f hf g (List.mem_cons_of_mem _ hg)
      · rw [List.mem_singleton.1 hf]
        exact hfirst g hg

/-- A list in key order makes a dictionary of its own entries. -/
theorem entries_ofList {entries : List (String × α)} (h : (Dict.mk entries).Sorted) :
    (ofList entries).entries = entries :=
  entries_merge h nofun

end Dict

end SeriesAcl
