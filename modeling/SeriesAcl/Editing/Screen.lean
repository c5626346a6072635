import SeriesAcl.Catalog.FileName
import SeriesAcl.Catalog.Forms
import SeriesAcl.Editing.SeriesEditor
import SeriesAcl.Editing.Themes

/-!
# The screen of a series

Everything about one series on one screen: its metadata with the main catalog apart, its theme, the
links to its feeds, and its permissions. A section that cannot be loaded is left empty. See
`SPEC_FULL.md`, section 9.2.
-/

namespace SeriesAcl

/-- The state of the screen (`SPEC_FULL.md` 9.2, `SeriesScreen`). -/
structure Screen where
  series : String
  access : SeriesEditor
  metadata : Metadata
  main : Option MainCatalog
  forms : MetadataForms
  themes : Option ThemeChoice
  feeds : Option (List Feed)
  links : List FeedLink

/-- What the metadata section is loaded with. -/
structure LoadedMetadata where
  rest : Metadata
  main : Option MainCatalog
  feeds : Option (List Feed)

namespace Screen

/-- A screen before anything is loaded. -/
def make (series : String) (rolePage : Nat) : Screen where
  series := series
  access := SeriesEditor.make series rolePage
  metadata := Metadata.empty
  main := none
  forms := MetadataForms.empty
  themes := none
  feeds := none
  links := []

/-- The feed links for what was loaded; without a unique id, feeds or a usable pattern there are
none (`SPEC_FULL.md` 9.2, `feed_links`). -/
def linksOf (loaded : LoadedMetadata) : List FeedLink :=
  match loaded.main >>= (·.seriesUid), loaded.feeds with
  | some uid, some feeds =>
    match Feed.seriesLinks feeds uid with
    | .ok links => links
    | .error _ => []
  | _, _ => []

/-- The screen with its metadata section as loaded, or empty when that failed. -/
def showMetadata (s : Screen) : Except Error LoadedMetadata → Screen
  | .ok loaded =>
    { s with
      metadata := loaded.rest
      main := loaded.main
      feeds := loaded.feeds
      links := linksOf loaded }
  | .error _ => { s with metadata := Metadata.empty, main := none, feeds := none, links := [] }

/-- The catalog at a place. -/
def catalogAt? (s : Screen) : CatalogPlace → Option Catalog
  | .main => s.main.map (·.catalog)
  | .other i => s.metadata.catalogs[i]?

/-- The screen with another catalog at a place. -/
def setCatalog (s : Screen) (place : CatalogPlace) (c : Catalog) : Screen :=
  match place with
  | .main => { s with main := s.main.map fun m ↦ { m with catalog := c } }
  | .other i =>
    { s with metadata := { s.metadata with catalogs := s.metadata.catalogs.set i c } }

/-- The catalog of a flavor with its place, which the screen remembers. -/
def catalog (s : Screen) (flavor : String) :
    Except Error (CatalogPlace × Catalog) × Screen :=
  let (place, forms) := s.forms.resolve flavor s.main s.metadata
  let s := { s with forms := forms }
  match place with
  | none => (.error (Error.unknownCatalog flavor), s)
  | some place =>
    match s.catalogAt? place with
    | some c => (.ok (place, c), s)
    | none => (.error (Error.unknownCatalog flavor), s)

/-- Set the value of a field on the screen. -/
def setValue (s : Screen) (flavor field : String) (value : Json) : Except Error Unit × Screen :=
  match s.catalog flavor with
  | (.error e, s) => (.error e, s)
  | (.ok (place, c), s) =>
    match c.setValue? field value with
    | some c => (.ok (), s.setCatalog place c)
    | none => (.error (Error.unknownField flavor field), s)

/-- The name of a statistics export of the series. -/
def exportName (s : Screen) (title : String) : String :=
  ExportFile.name s.series title

/-- Choose a theme without saving it; nothing happens when the themes are not loaded. -/
def selectTheme (s : Screen) (theme : Option String) : Screen :=
  { s with themes := s.themes.map fun c ↦ c.select theme }

variable {σ ν : Type} [AdminNode σ] [NoteSink ν]

/-- Load the metadata of a series, split, and the feeds when there is an id to make links for. -/
def loadMetadata (series : String) : Call σ LoadedMetadata := do
  let (rest, main) := Metadata.splitMain (← AdminNode.seriesMetadata series)
  match main >>= (·.seriesUid) with
  | none => return ⟨rest, main, none⟩
  | some _ => return ⟨rest, main, (← AdminNode.feeds.attempt).toOption⟩

/-- Load every section (`SPEC_FULL.md` 9.2, `open`). Only a failure of the permissions is
reported. -/
def load (s : Screen) (desk : Desk σ ν) : Turn Screen σ ν Unit :=
  let (metadata, desk) := desk.call (loadMetadata s.series)
  let (themes, desk) := desk.call (ThemeChoice.load s.series)
  let loaded := s.access.load desk
  let s := { s with access := loaded.editor, forms := MetadataForms.empty }
  let s := { s.showMetadata metadata with themes := themes.toOption }
  ⟨loaded.answer, s, loaded.desk⟩

/-- Show another series on the screen. -/
def change (_ : Screen) (series : String) (rolePage : Nat) (desk : Desk σ ν) :
    Turn Screen σ ν Unit :=
  (make series rolePage).load desk

/-- Submit one field of a catalog and mark it as saved (`SPEC_FULL.md` 9.2, `save_metadata`). -/
def saveMetadata (s : Screen) (flavor field : String) (desk : Desk σ ν) :
    Turn Screen σ ν Unit :=
  match s.catalog flavor with
  | (.error e, s) => ⟨.error e, s, desk⟩
  | (.ok (place, c), s) =>
    match desk.call (AdminNode.saveSeriesMetadata s.series (c.prepareForSave field)) with
    | (.error e, desk) => ⟨.error e, s, desk⟩
    | (.ok (), desk) => ⟨.ok (), s.setCatalog place (c.markSaved field), desk⟩

/-- Choose a theme, or none, and save the choice (`SPEC_FULL.md` 9.2, `save_theme`). -/
def saveTheme (s : Screen) (theme : Option String) (desk : Desk σ ν) : Turn Screen σ ν Unit :=
  match s.themes with
  | none => ⟨.error Error.themesNotLoaded, s, desk⟩
  | some choice =>
    let choice := choice.select theme
    let (answer, desk) := choice.save s.series desk
    ⟨answer, { s with themes := some choice }, desk⟩

/-- Operate the permissions section. -/
def editAccess {α : Type} (s : Screen)
    (operation : SeriesEditor → Desk σ ν → Turn SeriesEditor σ ν α) (desk : Desk σ ν) :
    Turn Screen σ ν α :=
  let t := operation s.access desk
  ⟨t.answer, { s with access := t.editor }, t.desk⟩

end Screen

end SeriesAcl
