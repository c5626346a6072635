import Mathlib.Data.List.Induction
import SeriesAcl.Catalog.Forms

/-!
# The places of catalogs

Where the catalog of a flavor is: the main catalog if it has the flavor, else the last other one
that has it (`locate_eq_some_iff`). Only the flavors count (`locate_congr`), so a remembered place
stays right while catalogs are edited (`Fresh.congr`).
-/

namespace SeriesAcl

/-- A place is that of a flavor: the main catalog has it, or the main catalog does not and the other
one at the place is the last that has it. -/
def CatalogPlace.IsOf (flavor : String) (main : Option MainCatalog) (rest : Metadata) :
    CatalogPlace → Prop
  | .main => ∃ m, main = some m ∧ m.catalog.flavor = flavor
  | .other i => (∀ m, main = some m → m.catalog.flavor ≠ flavor) ∧
    (∃ c, rest.catalogs[i]? = some c ∧ c.flavor = flavor) ∧
    ∀ j c, i < j → rest.catalogs[j]? = some c → c.flavor ≠ flavor

namespace MetadataForms

/-- The last index, counted on from the front. -/
theorem lastIndex?_concat (flavor : String) (catalogs : List Catalog) (c : Catalog) :
    lastIndex? flavor (catalogs ++ [c]) =
      if c.flavor = flavor then some catalogs.length else lastIndex? flavor catalogs := by
  unfold lastIndex?
  rw [List.reverse_append, List.reverse_singleton, List.singleton_append, List.findIdx?_cons,
    List.length_append, List.length_singleton]
  by_cases h : c.flavor = flavor
  · simp [h]
  · have hcount : (fun i ↦ catalogs.length + 1 - 1 - i) ∘ (fun i ↦ i + 1) =
        fun i ↦ catalogs.length - 1 - i := by
      funext i
      show catalogs.length + 1 - 1 - (i + 1) = catalogs.length - 1 - i
      omega
    rw [if_neg h, if_neg (by simpa using h), Option.map_map, hcount]

/-- The last index of a flavor: the catalog there has it, and none behind does. -/
theorem lastIndex?_eq_some_iff (flavor : String) (catalogs : List Catalog) (i : Nat) :
    lastIndex? flavor catalogs = some i ↔
      (∃ c, catalogs[i]? = some c ∧ c.flavor = flavor) ∧
        ∀ j c, i < j → catalogs[j]? = some c → c.flavor ≠ flavor := by
  induction catalogs using List.reverseRecOn with
  | nil => simp [lastIndex?]
  | append_singleton catalogs c ih =>
    have hlast : (catalogs ++ [c])[catalogs.length]? = some c := List.getElem?_concat_length
    have hinit : ∀ {j}, j < catalogs.length → (catalogs ++ [c])[j]? = catalogs[j]? :=
      fun h ↦ List.getElem?_append_left h
    have hbound : ∀ {j c'}, (catalogs ++ [c])[j]? = some c' → j ≤ catalogs.length := by
      intro j c' h
      have hlt := (List.getElem?_eq_some_iff.mp h).1
      rw [List.length_append, List.length_singleton] at hlt
      omega
    rw [lastIndex?_concat]
    by_cases h : c.flavor = flavor
    · rw [if_pos h, Option.some.injEq]
      constructor
      · rintro rfl
        refine ⟨⟨c, hlast, h⟩, fun j c' hj hc' ↦ ?_⟩
        exact absurd (hbound hc') (by omega)
      · rintro ⟨⟨c', hc', -⟩, hbehind⟩
        by_contra hne
        have hle := hbound hc'
        exact hbehind catalogs.length c (by omega) hlast h
    · rw [if_neg h, ih]
      constructor
      · rintro ⟨⟨c', hc', hflavor⟩, hbehind⟩
        have hi := (List.getElem?_eq_some_iff.mp hc').1
        refine ⟨⟨c', (hinit hi).trans hc', hflavor⟩, fun j d hj hd ↦ ?_⟩
        rcases Nat.lt_or_eq_of_le (hbound hd) with hlt | rfl
        · exact hbehind j d hj ((hinit hlt).symm.trans hd)
        · rw [hlast] at hd
          exact Option.some.inj hd ▸ h
      · rintro ⟨⟨c', hc', hflavor⟩, hbehind⟩
        rcases Nat.lt_or_eq_of_le (hbound hc') with hlt | rfl
        · refine ⟨⟨c', (hinit hlt).symm.trans hc', hflavor⟩, fun j d hj hd ↦ ?_⟩
          have hj' := (List.getElem?_eq_some_iff.mp hd).1
          exact hbehind j d hj ((hinit hj').trans hd)
        · rw [hlast] at hc'
          exact absurd (Option.some.inj hc' ▸ hflavor) h

/-- What is located is the place of the flavor. -/
theorem locate_eq_some_iff (flavor : String) (main : Option MainCatalog) (rest : Metadata)
    (place : CatalogPlace) :
    locate flavor main rest = some place ↔ place.IsOf flavor main rest := by
  unfold locate
  cases main with
  | none =>
    rw [Option.map_none, Option.getD_none, if_neg Bool.false_ne_true]
    cases place with
    | main => simp [CatalogPlace.IsOf]
    | other i => simp [CatalogPlace.IsOf, lastIndex?_eq_some_iff]
  | some m =>
    rw [Option.map_some, Option.getD_some]
    by_cases h : m.catalog.flavor = flavor
    · rw [if_pos (beq_iff_eq.mpr h)]
      cases place <;> simp [CatalogPlace.IsOf, h]
    · rw [if_neg (by simpa using h)]
      cases place with
      | main => simp [CatalogPlace.IsOf, h]
      | other i => simp [CatalogPlace.IsOf, lastIndex?_eq_some_iff, h]

private theorem lastIndex?_eq (flavor : String) (catalogs : List Catalog) :
    lastIndex? flavor catalogs =
      ((catalogs.map Catalog.flavor).reverse.findIdx? (· == flavor)).map fun i ↦
        (catalogs.map Catalog.flavor).length - 1 - i := by
  rw [← List.map_reverse, List.findIdx?_map, List.length_map]
  rfl

/-- Only the flavors of the catalogs count. -/
theorem locate_congr (flavor : String) {main main' : Option MainCatalog} {rest rest' : Metadata}
    (hmain : main'.map (·.catalog.flavor) = main.map (·.catalog.flavor))
    (hrest : rest'.catalogs.map Catalog.flavor = rest.catalogs.map Catalog.flavor) :
    locate flavor main' rest' = locate flavor main rest := by
  have htest : main'.map (fun m ↦ m.catalog.flavor == flavor) =
      main.map fun m ↦ m.catalog.flavor == flavor := by
    have h := congrArg (Option.map (· == flavor)) hmain
    rwa [Option.map_map, Option.map_map] at h
  unfold locate
  rw [htest, lastIndex?_eq, lastIndex?_eq, hrest]

/-! ### Remembered places -/

/-- Every remembered place is where the catalog of the flavor is now. -/
def Fresh (forms : MetadataForms) (main : Option MainCatalog) (rest : Metadata) : Prop :=
  ∀ flavor place, forms.resolved.get? flavor = some place → locate flavor main rest = some place

/-- Nothing is remembered at first. -/
theorem fresh_empty (main : Option MainCatalog) (rest : Metadata) : empty.Fresh main rest :=
  nofun

namespace Fresh

variable {forms : MetadataForms} {main main' : Option MainCatalog} {rest rest' : Metadata}

/-- A remembered place is the one that is found without the memory. -/
theorem resolve_eq (h : forms.Fresh main rest) (flavor : String) :
    (forms.resolve flavor main rest).1 = locate flavor main rest := by
  unfold resolve
  split
  · next place hplace => exact (h flavor place hplace).symm
  · split
    · next place hplace => exact hplace.symm
    · next hnone => exact hnone.symm

/-- What is remembered on the way is fresh too. -/
theorem resolve (h : forms.Fresh main rest) (flavor : String) :
    (forms.resolve flavor main rest).2.Fresh main rest := by
  unfold MetadataForms.resolve
  split
  · exact h
  · split
    · next place hplace =>
      intro flavor' place' hget
      rw [Dict.get?_insert] at hget
      split at hget
      · next heq =>
        rw [← heq, ← Option.some.inj hget]
        exact hplace
      · exact h flavor' place' hget
    · exact h

/-- Edits that keep the flavors leave what is remembered fresh. -/
theorem congr (h : forms.Fresh main rest)
    (hmain : main'.map (·.catalog.flavor) = main.map (·.catalog.flavor))
    (hrest : rest'.catalogs.map Catalog.flavor = rest.catalogs.map Catalog.flavor) :
    forms.Fresh main' rest' := by
  intro flavor place hget
  rw [locate_congr flavor hmain hrest]
  exact h flavor place hget

end Fresh

end MetadataForms

end SeriesAcl
