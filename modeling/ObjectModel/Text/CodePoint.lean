/-!
# Ranges of code points

A property of characters is given as a table of closed ranges of code points, in ascending order
and apart from each other.

## Main definitions

* `CodePoint.Ranges`, `CodePoint.Ranges.contains` — a table, and whether a character is in it.
* `CodePoint.Ranges.ordered` — the check that the ranges ascend and keep apart.
-/

namespace ObjectModel.CodePoint

/-- A set of code points as a list of closed ranges. -/
abbrev Ranges := List (Nat × Nat)

/-- Whether a character lies in one of the ranges. -/
def Ranges.contains (ranges : Ranges) (c : Char) : Bool :=
  ranges.any fun (first, last) => first ≤ c.toNat && c.toNat ≤ last

/-- Whether every range is nonempty and ends before the next one starts, with a gap between. -/
def Ranges.ordered : Ranges → Bool
  | [] => true
  | [(first, last)] => first ≤ last
  | (first, last) :: (next, stop) :: rest =>
    first ≤ last && last + 1 < next && Ranges.ordered ((next, stop) :: rest)

end ObjectModel.CodePoint
