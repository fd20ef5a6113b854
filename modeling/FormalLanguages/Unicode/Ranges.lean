/-!
# Ranges of code points

A property of characters is written as the list of the ranges of code points that have it, both ends
included, in ascending order.
-/
namespace FormalLanguages.Unicode

/-- Closed ranges of code points. -/
abbrev Ranges := List (Nat × Nat)

/-- Some range holds the code point. -/
def Ranges.has (ranges : Ranges) (n : Nat) : Bool := ranges.any fun (lo, hi) => lo ≤ n && n ≤ hi

/-- The ranges ascend and do not touch. -/
def Ranges.Ascending (ranges : Ranges) : Prop :=
  ranges.Pairwise fun r s => r.2 < s.1

end FormalLanguages.Unicode
