/-!
# Tables of characters

Looking up code points in tables: ranges that tell a property, and rows that tell a value for each
of several code points in a line.
-/

namespace SeriesAcl.Text

/-- Whether the code point of `c` lies in one of the ranges. -/
def inRanges (ranges : List (Nat × Nat)) (c : Char) : Bool :=
  ranges.any fun (first, last) ↦ first ≤ c.toNat && c.toNat ≤ last

/-- The value of a code point in rows, each of which starts at the code point it names. -/
def inRows? {α : Type} (rows : List (Nat × List α)) (n : Nat) : Option α :=
  rows.findSome? fun (first, values) ↦ if first ≤ n then values[n - first]? else none

end SeriesAcl.Text
