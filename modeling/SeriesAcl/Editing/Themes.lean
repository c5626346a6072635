import SeriesAcl.Editing.Desk

/-!
# Choosing the theme of a series

The themes that a node offers with their descriptions, and the one that is chosen for a series. See
`SPEC_FULL.md`, section 6.3.
-/

namespace SeriesAcl

/-- The themes on offer and the one chosen (`SPEC_FULL.md` 6.3). -/
structure ThemeChoice where
  themes : ResourceList
  descriptions : ResourceList
  selected : Option String
  description : Option String

namespace ThemeChoice

/-- No themes. -/
def empty : ThemeChoice := ⟨Dict.empty, Dict.empty, none, none⟩

/-- The choice with the description of the chosen theme. -/
def describe (c : ThemeChoice) : ThemeChoice :=
  { c with description := c.selected >>= c.descriptions.get? }

/-- Choose a theme, or none; an empty id is none. -/
def select (c : ThemeChoice) (theme : Option String) : ThemeChoice :=
  describe { c with selected := theme.filter fun id ↦ id ≠ "" }

variable {σ ν : Type} [AdminNode σ] [NoteSink ν]

/-- Load the themes on offer and the theme of a series: the first one on offer that the series has
(`SPEC_FULL.md` 6.3). -/
def load (series : String) : Call σ ThemeChoice := do
  let themes ← AdminNode.resourceList Resource.themeNames
  let current ← AdminNode.seriesTheme series
  let selected := themes.keys.find? current.contains
  let descriptions ← AdminNode.resourceList Resource.themeDescriptions
  return describe ⟨themes, descriptions, selected, none⟩

/-- Save the choice for a series, and remind the user that events keep their theme until they are
processed again (`SPEC_FULL.md` 6.3, `save_theme`). -/
def save (c : ThemeChoice) (series : String) (desk : Desk σ ν) : Except Error Unit × Desk σ ν :=
  let call : Call σ Unit := match c.selected with
    | none => AdminNode.deleteSeriesTheme series
    | some theme => AdminNode.saveSeriesTheme series theme
  match desk.call call with
  | (.error e, desk) => (.error e, desk)
  | (.ok (), desk) =>
    let (_, notes) :=
      NoteSink.add (Note.warning Note.reprocessEvents Note.themeContext) desk.notes
    (.ok (), { desk with notes := notes })

end ThemeChoice

end SeriesAcl
