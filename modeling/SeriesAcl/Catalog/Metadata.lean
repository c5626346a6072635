import SeriesAcl.Catalog.Catalog
import SeriesAcl.Error.Basic

/-!
# Metadata of a series

The metadata catalogs of a series, and the main catalog that is lifted out of them with what the
header of the screen shows: the shortened title, the lock and the unique id of the series. See
`SPEC_FULL.md`, section 6.2.
-/

namespace SeriesAcl

open Json (Decoder Fields)

/-- The metadata catalogs of a series (`SPEC_FULL.md` 6.2, `SeriesMetadata`). -/
structure Metadata where
  catalogs : List Catalog
  locked : Bool

/-- The main catalog of a series, with the shortened title and the unique id of the series. -/
structure MainCatalog where
  catalog : Catalog
  title : Option String
  seriesUid : Option String

/-- The record of a main catalog. -/
def MainCatalog.toJson (m : MainCatalog) : Json :=
  .object [("catalog", m.catalog.toJson), ("title_param", .ofOption m.title),
    ("series_uid", .ofOption m.seriesUid)]

namespace Metadata

/-- No metadata. -/
def empty : Metadata := ⟨[], false⟩

/-- The record of the metadata. -/
def toJson (m : Metadata) : Json :=
  .object [("entries", .array (m.catalogs.map Catalog.toJson)), ("locked", .bool m.locked)]

/-- The metadata of a record. -/
def decode : Decoder Metadata :=
  Decoder.record ["entries", "locked"]
    (Metadata.mk <$> Fields.withDefault "entries" (Decoder.list Catalog.decode) []
      <*> Fields.withDefault "locked" Decoder.bool false)

/-- The metadata in an answer of the node: a bare array of catalogs, or a record. -/
def ofJson : Json → Except Error Metadata
  | .array items =>
    match Decoder.ofValue (Decoder.list Catalog.decode) (.array items) with
    | .ok catalogs => .ok ⟨catalogs, false⟩
    | .error fault => .error (Error.invalidJson fault)
  | .object members => (Decoder.ofValue decode (.object members)).mapError Error.invalidJson
  | other => .error (Error.unexpectedPayload "invalid_metadata" "metadata" other.compact)

/-- How many characters of a title the header shows (`SPEC_FULL.md` 6.2). -/
def titleLength : Nat := 70

/-- The tab index of the first field of the main catalog (`SPEC_FULL.md` 6.2). -/
def firstTabIndex : Nat := 2

/-- The fields with tab indexes counted up from `next`. Indexes have 32 bits in the program and are
natural numbers here; with fewer than `2 ^ 32 - 2` fields none of them is too large
(`MainCatalog.Shows.tabIndex_lt`). -/
def number (next : Nat) : List Field → List Field
  | [] => []
  | f :: fs => { f with tabIndex := some next } :: number (next + 1) fs

/-- The title that a field shows: that of a title field whose value is a text. -/
def titleOf? (f : Field) : Option String :=
  if f.id = "title" then f.value.asString?.map fun s ↦ String.ofList (s.toList.take titleLength)
  else none

/-- A list cut before and behind its first item that passes a test. -/
def cutFirst? {α : Type} (test : α → Bool) : List α → Option (List α × α × List α)
  | [] => none
  | x :: xs =>
    if test x then some ([], x, xs)
    else (cutFirst? test xs).map fun (before, found, behind) ↦ (x :: before, found, behind)

/-- A list without its last item that passes a test, and that item. -/
def takeLast? {α : Type} (test : α → Bool) (xs : List α) : Option (α × List α) :=
  (cutFirst? test xs.reverse).map fun (behind, found, before) ↦
    (found, before.reverse ++ behind.reverse)

/-- The main catalog as it is shown: fields numbered in order, the title of the last title field,
and the value of the first identifier field. -/
def mainCatalog (c : Catalog) : MainCatalog where
  catalog := { c with fields := number firstTabIndex c.fields }
  title := (c.fields.filterMap titleOf?).getLast?
  seriesUid := c.field? "identifier" >>= fun f ↦ f.value.asString?

/-- The metadata without its main catalog, the last one of the main flavor, and that catalog
(`SPEC_FULL.md` 6.2, `split_main_catalog`). A locked field of the main catalog locks the
metadata. -/
def splitMain (m : Metadata) : Metadata × Option MainCatalog :=
  match takeLast? (fun c ↦ c.flavor == Catalog.mainFlavor) m.catalogs with
  | none => (m, none)
  | some (c, rest) =>
    (⟨rest, m.locked || c.fields.any (·.locked)⟩, some (mainCatalog c))

end Metadata

end SeriesAcl
