import SeriesAcl.Text.Lowercase

/-!
# Export file names

The file name of a statistics export: the id of the series and the title of the statistics, the
title reduced to letters and digits. Letters are those that equal one of A to Z when letter case is
set aside, which holds of the long s and the Kelvin sign too. See `SPEC_FULL.md`, section 6.2.
-/

namespace SeriesAcl.ExportFile

/-- The characters of a title that are kept. -/
def isKept (c : Char) : Bool :=
  ('0' ≤ c && c ≤ '9') || ('a' ≤ c && c ≤ 'z') || ('A' ≤ c && c ≤ 'Z') ||
    c.toNat == 0x17F || c.toNat == 0x212A

/-- A title with underscores in the place of the characters that are not kept, in lower case. -/
def sanitize (title : String) : String :=
  Text.lower (String.ofList (title.toList.map fun c ↦ if isKept c then c else '_'))

/-- The file name of a statistics export (`SPEC_FULL.md` 6.2, `statistics_csv_file_name`). -/
def name (series title : String) : String :=
  "export_series_" ++ series ++ "_" ++ sanitize title ++ ".csv"

end SeriesAcl.ExportFile
