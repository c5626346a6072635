import SeriesAcl.Catalog.Metadata

/-!
# Metadata forms

Where on the screen the catalog of a flavor is: the main catalog, or one of the others by its place.
An answer is remembered, so that later ones agree with it until the memory is cleared. See
`SPEC_FULL.md`, section 6.2.
-/

namespace SeriesAcl

/-- Where a catalog is. -/
inductive CatalogPlace where
  | main
  | other (index : Nat)
  deriving DecidableEq, Repr

/-- The remembered places (`SPEC_FULL.md` 6.2, `MetadataForms`). -/
structure MetadataForms where
  resolved : Dict CatalogPlace

namespace MetadataForms

/-- Nothing is remembered. -/
def empty : MetadataForms := ⟨Dict.empty⟩

/-- The index of the last catalog of a flavor. -/
def lastIndex? (flavor : String) (catalogs : List Catalog) : Option Nat :=
  (catalogs.reverse.findIdx? fun c ↦ c.flavor == flavor).map fun i ↦ catalogs.length - 1 - i

/-- Where the catalog of a flavor is: the main catalog if it has the flavor, else the last other one
that has it. -/
def locate (flavor : String) (main : Option MainCatalog) (rest : Metadata) : Option CatalogPlace :=
  if (main.map fun m ↦ m.catalog.flavor == flavor).getD false then some .main
  else (lastIndex? flavor rest.catalogs).map .other

/-- The remembered place of a flavor, or where its catalog is now, which is remembered if found. -/
def resolve (forms : MetadataForms) (flavor : String) (main : Option MainCatalog)
    (rest : Metadata) : Option CatalogPlace × MetadataForms :=
  match forms.resolved.get? flavor with
  | some place => (some place, forms)
  | none =>
    match locate flavor main rest with
    | some place => (some place, ⟨forms.resolved.insert flavor place⟩)
    | none => (none, forms)

end MetadataForms

end SeriesAcl
