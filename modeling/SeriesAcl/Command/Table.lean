import SeriesAcl.Access.Policy
import SeriesAcl.Access.Template
import SeriesAcl.Text.Blank
import SeriesAcl.Text.Unsigned

/-!
# Tables

Text tables with a header, a rule above and below, and a last line that counts the rows. A column is
as wide as its widest cell, up to a limit; longer cells are cut short with an ellipsis. Cells that
hold a number stand to the right. See `SPEC_FULL.md`, section 10.4.
-/

namespace SeriesAcl.Table

/-- The greatest width of a column. -/
def maxWidth : Nat := 60

/-- The cell of a row at a column; a short row is empty at its end. -/
def cell (row : List String) (column : Nat) : String :=
  (row[column]?).getD ""

/-- The width of a column. -/
def width (header : String) (rows : List (List String)) (column : Nat) : Nat :=
  rows.foldl (fun w row ↦ max w (min (cell row column).length maxWidth))
    (min header.length maxWidth)

/-- The widths of all columns from one on. -/
def widthsFrom (column : Nat) (headers : List String) (rows : List (List String)) : List Nat :=
  match headers with
  | [] => []
  | header :: headers => width header rows column :: widthsFrom (column + 1) headers rows

/-- A text cut to a width, with an ellipsis in the place of what is missing. -/
def truncate (s : List Char) (width : Nat) : List Char :=
  if s.length ≤ width then s
  else if width ≤ 1 then ['…']
  else s.take (width - 1) ++ ['…']

/-- Whether a cell holds nothing but digits, blanks at its ends aside. -/
def isNumeric (s : String) : Bool :=
  let digits := (Text.trim s).toList
  !digits.isEmpty && digits.all fun c ↦ (Text.digit? c).isSome

/-- A cell filled up to a width. -/
def pad (s : String) (width : Nat) : List Char :=
  let shown := truncate s.toList width
  let blanks := List.replicate (width - shown.length) ' '
  if isNumeric s then blanks ++ shown else shown ++ blanks

/-- The rule between header and rows. -/
def ruleLine (widths : List Nat) : List Char :=
  '+' :: widths.flatMap fun w ↦ List.replicate (w + 2) '-' ++ ['+']

/-- The cells of a row from one column on, each with the bar behind it. -/
def cellsFrom (row : List String) (column : Nat) : List Nat → List Char
  | [] => []
  | w :: ws => ' ' :: (pad (cell row column) w ++ ' ' :: '|' :: cellsFrom row (column + 1) ws)

/-- The line of a row. -/
def rowLine (widths : List Nat) (row : List String) : List Char :=
  '|' :: cellsFrom row 0 widths

/-- The lines of a table above its count. -/
def lines (headers : List String) (rows : List (List String)) : List (List Char) :=
  let widths := widthsFrom 0 headers rows
  [ruleLine widths, rowLine widths headers, ruleLine widths] ++ rows.map (rowLine widths) ++
    [ruleLine widths]

/-- A table (`SPEC_FULL.md` 10.4). -/
def render (headers : List String) (rows : List (List String)) : String :=
  let count := rows.length
  String.ofList ((lines headers rows).flatMap fun line ↦ line ++ ['\n']) ++ s!"rows: {count}\n"

/-- How a mark is shown. -/
def mark (flag : Bool) : String :=
  if flag then "x" else ""

/-- The table of a list of rows. -/
def ofPolicies (rows : List Policy) : String :=
  render ["role", "read", "write", "actions"] (rows.map fun p ↦
    [p.role.getD "<unset>", mark p.read, mark p.write, ", ".intercalate p.actions])

/-- The table of a list of templates, their roles resolved for a caller. -/
def ofTemplates (templates : List Template) (org : Option String) : String :=
  render ["id", "key", "role", "name"] (templates.map fun t ↦
    [toString t.id, t.key, (t.roleFor org).getD "", t.name])

/-- The table of known roles with their labels. -/
def ofRoles (roles : Dict String) : String :=
  render ["role", "label"] (roles.entries.map fun e ↦ [e.1, e.2])

end SeriesAcl.Table
