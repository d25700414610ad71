-- Sets of characters given as a table of ranges in ascending order.

namespace ServiceMesh.Text

/-- Binary search among the rows `lo ≤ i < hi` of a table in ascending order: the row
whose range, as `range` reads it, holds `c`. -/
def findRow {α : Type} (rows : Array α) (range : α → Nat × Nat) (c lo hi : Nat) : Option α :=
  if lo < hi then
    let mid := (lo + hi) / 2
    match rows[mid]? with
    | none => none
    | some row =>
      if c < (range row).1 then findRow rows range c lo mid
      else if (range row).2 < c then findRow rows range c (mid + 1) hi
      else some row
  else none
termination_by hi - lo

/-- Whether the code point lies in one of the ranges. -/
def inRanges (ranges : Array (Nat × Nat)) (c : Nat) : Bool :=
  (findRow ranges id c 0 ranges.size).isSome

end ServiceMesh.Text
