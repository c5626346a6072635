import Mathlib.Algebra.GroupWithZero.Nat
import Mathlib.Data.List.Forall2
import Mathlib.Order.Bounds.Basic
import Mathlib.Order.MinMax
import SeriesAcl.Command.Table

/-!
# The layout of tables

How a table is drawn, whatever its rows hold and however many cells they have: every line is as long
as the columns are wide, with a line for each row, and a cell is shown whole unless it is longer
than a column may be (`exists_drawing`). A column is too narrow only for texts that are longer than
the greatest width, so none is cut down to the ellipsis alone.
-/

namespace SeriesAcl.Table

/-! ### What is drawn -/

/-- What is shown of a text: all of it, or its beginning and an ellipsis. -/
def shown (text : String) : List Char :=
  if text.length ≤ maxWidth then text.toList else text.toList.take (maxWidth - 1) ++ ['…']

/-- A text in a column: blanks fill up the width, to the left of numbers and to the right of all
else. -/
def field (width : Nat) (text : String) : List Char :=
  let blanks := List.replicate (width - (shown text).length) ' '
  if isNumeric text then blanks ++ shown text else shown text ++ blanks

/-- A line has the cells of a row in it, one for each column, between bars. -/
def IsLine (widths : List Nat) (row : List String) (line : List Char) : Prop :=
  line = '|' ::
    (widths.mapIdx fun column w ↦ ' ' :: (field w (cell row column) ++ [' ', '|'])).flatten

/-- A column is as wide as the longest text in it, its header included, up to the greatest width. -/
def IsWidth (headers : List String) (rows : List (List String)) (column w : Nat) : Prop :=
  ∃ longest, IsGreatest {n | ∃ row ∈ headers :: rows, n = (cell row column).length} longest ∧
    w = min longest maxWidth

/-- The lines of a table, and the widths of its columns. -/
structure Drawing where
  widths : List Nat
  rule : List Char
  head : List Char
  body : List (List Char)

/-- The lines one below the other, with the header between rules, the rows above another one, and
the number of rows at the end. -/
def Drawing.text (d : Drawing) : String :=
  let count := d.body.length
  String.ofList ((d.rule :: d.head :: d.rule :: d.body ++ [d.rule]).flatMap fun line ↦
    line ++ ['\n']) ++ s!"rows: {count}\n"

/-- How headers and rows are drawn: each column as wide as its texts ask for, all lines equally
long, a line with its cells for the header and for each row. Where a text does not fit into its
column there is room for more of it than the ellipsis. -/
structure Drawing.Shows (d : Drawing) (headers : List String) (rows : List (List String)) :
    Prop where
  columns : d.widths.length = headers.length
  width : ∀ column w, d.widths[column]? = some w → IsWidth headers rows column w
  length : ∀ line ∈ d.rule :: d.head :: d.body, line.length = 1 + (d.widths.map (· + 3)).sum
  head : IsLine d.widths headers d.head
  body : List.Forall₂ (IsLine d.widths) rows d.body
  cut : ∀ row ∈ headers :: rows, ∀ column w, d.widths[column]? = some w →
    w < (cell row column).length → 1 < w

/-! ### Widths -/

private theorem foldl_max_min (cells : List Nat) (n bound : Nat) :
    cells.foldl (fun w length ↦ max w (min length bound)) (min n bound) =
      min (cells.foldl max n) bound := by
  induction cells generalizing n with
  | nil => rfl
  | cons length rest ih => rw [List.foldl_cons, List.foldl_cons, ← ih, min_max_distrib_right]

private theorem width_eq (header : String) (rows : List (List String)) (column : Nat) :
    width header rows column =
      min ((rows.map fun row ↦ (cell row column).length).foldl max header.length) maxWidth := by
  rw [← foldl_max_min, List.foldl_map]
  rfl

private theorem isWidth_width {headers : List String} {column : Nat} {header : String}
    (h : headers[column]? = some header) (rows : List (List String)) :
    IsWidth headers rows column (width header rows column) := by
  have hcell : cell headers column = header := by
    rw [cell, h]
    rfl
  let lengths := rows.map fun row ↦ (cell row column).length
  have hmax : (header.length :: lengths).max? = some (lengths.foldl max header.length) :=
    List.max?_cons'
  obtain ⟨hmem, hle⟩ := List.max?_eq_some_iff.mp hmax
  refine ⟨_, ?_, width_eq header rows column⟩
  constructor
  · rcases List.mem_cons.mp hmem with hheader | hrow
    · exact ⟨headers, List.mem_cons_self, by rw [hheader, hcell]⟩
    · obtain ⟨row, hrow, hlength⟩ := List.mem_map.mp hrow
      exact ⟨row, List.mem_cons_of_mem _ hrow, hlength.symm⟩
  · rintro n ⟨row, hrow, rfl⟩
    apply hle
    rcases List.mem_cons.mp hrow with rfl | hrow
    · rw [hcell]
      exact List.mem_cons_self
    · exact List.mem_cons_of_mem _ (List.mem_map.mpr ⟨row, hrow, rfl⟩)

private theorem getElem?_widthsFrom (first : Nat) (headers : List String)
    (rows : List (List String)) (column : Nat) :
    (widthsFrom first headers rows)[column]? =
      headers[column]?.map fun header ↦ width header rows (first + column) := by
  induction headers generalizing first column with
  | nil => rfl
  | cons header headers ih =>
    cases column with
    | zero => rfl
    | succ column =>
      rw [widthsFrom, List.getElem?_cons_succ, List.getElem?_cons_succ, ih, Nat.add_right_comm,
        Nat.add_assoc]

private theorem length_widthsFrom (first : Nat) (headers : List String)
    (rows : List (List String)) :
    (widthsFrom first headers rows).length = headers.length := by
  induction headers generalizing first with
  | nil => rfl
  | cons header headers ih => rw [widthsFrom, List.length_cons, List.length_cons, ih]

private theorem isWidth_of_widthsFrom {headers : List String} {rows : List (List String)}
    {column w : Nat}
    (h : (widthsFrom 0 headers rows)[column]? = some w) : IsWidth headers rows column w := by
  rw [getElem?_widthsFrom, Nat.zero_add] at h
  obtain ⟨header, hheader, rfl⟩ := Option.map_eq_some_iff.mp h
  exact isWidth_width hheader rows

/-! ### Cells -/

/-- A width has room for what is shown of a text, and no more room than there may be. -/
structure Fits (text : String) (w : Nat) : Prop where
  room : min text.length maxWidth ≤ w
  bound : w ≤ maxWidth

private theorem IsWidth.fits {headers row : List String} {rows : List (List String)}
    {column w : Nat} (h : IsWidth headers rows column w) (hrow : row ∈ headers :: rows) :
    Fits (cell row column) w := by
  obtain ⟨longest, hlongest, rfl⟩ := h
  exact ⟨min_le_min_right _ (hlongest.2 ⟨row, hrow, rfl⟩), min_le_right _ _⟩

private theorem length_shown (text : String) : (shown text).length = min text.length maxWidth := by
  unfold shown
  split
  · next hshort => rw [String.length_toList, Nat.min_eq_left hshort]
  · next hlong =>
    have hpos : 0 < maxWidth := by decide
    rw [List.length_append, List.length_take, String.length_toList, List.length_singleton]
    omega

namespace Fits

variable {text : String} {w : Nat} (h : Fits text w)
include h

/-- A column that is too narrow for a text has the greatest width. -/
theorem eq_maxWidth (hlong : w < text.length) : w = maxWidth := by
  have hroom := h.room
  have hbound := h.bound
  omega

private theorem truncate_eq : truncate text.toList w = shown text := by
  unfold truncate shown
  rw [String.length_toList]
  by_cases hfull : text.length ≤ w
  · rw [if_pos hfull, if_pos (hfull.trans h.bound)]
  -- A width that cuts a text off is the greatest one, and a text shown is cut off there too.
  · have hw := h.eq_maxWidth (Nat.lt_of_not_le hfull)
    subst hw
    rw [if_neg hfull, if_neg hfull, if_neg (by decide)]

private theorem pad_eq : pad text w = field w text := by
  unfold pad field
  rw [h.truncate_eq]

private theorem length_field : (field w text).length = w := by
  have hroom : (shown text).length ≤ w := (length_shown text).trans_le h.room
  unfold field
  dsimp only
  split <;> rw [List.length_append, List.length_replicate] <;> omega

end Fits

/-! ### Lines -/

private theorem length_ruleLine (widths : List Nat) :
    (ruleLine widths).length = 1 + (widths.map (· + 3)).sum := by
  induction widths with
  | nil => rfl
  | cons w ws ih =>
    simp only [ruleLine, List.length_cons, List.flatMap_cons, List.length_append,
      List.length_replicate, List.length_nil, List.map_cons, List.sum_cons] at ih ⊢
    omega

private theorem cellsFrom_eq (row : List String) (first : Nat) (widths : List Nat) :
    cellsFrom row first widths =
      (widths.mapIdx fun column w ↦
        ' ' :: (pad (cell row (first + column)) w ++ [' ', '|'])).flatten := by
  induction widths generalizing first with
  | nil => rfl
  | cons w ws ih =>
    rw [cellsFrom, ih, List.mapIdx_cons, List.flatten_cons]
    simp [Nat.add_assoc, Nat.add_comm 1]

section RowLine

variable {widths : List Nat} {row : List String}
  (h : ∀ column w, widths[column]? = some w → Fits (cell row column) w)
include h

private theorem isLine_rowLine : IsLine widths row (rowLine widths row) := by
  have hfields : (widths.mapIdx fun column w ↦
        ' ' :: (pad (cell row (0 + column)) w ++ [' ', '|'])) =
      widths.mapIdx fun column w ↦ ' ' :: (field w (cell row column) ++ [' ', '|']) := by
    rw [List.mapIdx_eq_mapIdx_iff]
    intro column hcolumn
    rw [Nat.zero_add, (h column _ (List.getElem?_eq_getElem hcolumn)).pad_eq]
  rw [IsLine, rowLine, cellsFrom_eq, hfields]

private theorem length_rowLine : (rowLine widths row).length = 1 + (widths.map (· + 3)).sum := by
  have hline : rowLine widths row = _ := isLine_rowLine h
  have hlengths : (widths.mapIdx fun column w ↦
        ' ' :: (field w (cell row column) ++ [' ', '|'])).map List.length =
      widths.map (· + 3) := by
    apply List.ext_getElem?
    intro column
    rw [List.getElem?_map, List.getElem?_mapIdx, List.getElem?_map, Option.map_map]
    cases hw : widths[column]? with
    | none => rw [Option.map_none, Option.map_none]
    | some w =>
      rw [Option.map_some, Option.map_some, Function.comp_apply, List.length_cons,
        List.length_append, (h column w hw).length_field, List.length_cons, List.length_singleton]
  rw [hline, List.length_cons, List.length_flatten, hlengths, Nat.add_comm]

end RowLine

/-- A table is drawn with lines of one length, one for each row, in columns as wide as the longest
text in them up to the greatest width. Every cell of a column is shown, whole or up to the ellipsis,
and nowhere is there room for the ellipsis alone. -/
theorem exists_drawing (headers : List String) (rows : List (List String)) :
    ∃ d : Drawing, d.Shows headers rows ∧ render headers rows = d.text := by
  let widths := widthsFrom 0 headers rows
  have hfits : ∀ row ∈ headers :: rows, ∀ column w, widths[column]? = some w →
      Fits (cell row column) w :=
    fun row hrow column w hw ↦ (isWidth_of_widthsFrom hw).fits hrow
  refine ⟨⟨widths, ruleLine widths, rowLine widths headers, rows.map (rowLine widths)⟩, ?_, ?_⟩
  · constructor
    · exact length_widthsFrom 0 headers rows
    · exact fun column w hw ↦ isWidth_of_widthsFrom hw
    · intro line hline
      rcases List.mem_cons.mp hline with rfl | hline
      · exact length_ruleLine widths
      · obtain ⟨row, hrow, rfl⟩ := List.mem_map.mp
          (show line ∈ (headers :: rows).map (rowLine widths) from hline)
        exact length_rowLine (hfits row hrow)
    · exact isLine_rowLine (hfits headers List.mem_cons_self)
    · rw [List.forall₂_map_right_iff, List.forall₂_same]
      exact fun row hrow ↦ isLine_rowLine (hfits row (List.mem_cons_of_mem _ hrow))
    · intro row hrow column w hw hlong
      rw [(hfits row hrow column w hw).eq_maxWidth hlong]
      decide
  · simp only [render, lines, Drawing.text, List.length_map]
    rfl

/-- A number stands to the right, and a short row is filled up. -/
example : (lines ["id", "key"] [["1", "public"], ["12"]]).map String.ofList =
    ["+----+--------+", "| id | key    |", "+----+--------+", "|  1 | public |", "| 12 |        |",
      "+----+--------+"] := by
  decide

end SeriesAcl.Table
