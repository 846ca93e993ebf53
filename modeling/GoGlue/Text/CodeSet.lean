/-!
# Sets of characters

A set of code points is kept as the sorted list of the places where membership changes: a code point is
in the set when an odd number of bounds are at most it. The lookup is a binary search.
-/
namespace GoGlue.Text

/-- Sorted code points at which membership changes, beginning outside the set. -/
structure CodeSet where
  bounds : Array Nat

namespace CodeSet

/-- The number of bounds before `hi` that are at most `c`, given that the first `lo` are. -/
def rank (s : CodeSet) (c lo hi : Nat) (h : hi ≤ s.bounds.size) : Nat :=
  if hlt : lo < hi then
    have : (lo + hi) / 2 < s.bounds.size := by omega
    if s.bounds[(lo + hi) / 2] ≤ c then s.rank c ((lo + hi) / 2 + 1) hi h
    else s.rank c lo ((lo + hi) / 2) (by omega)
  else lo
termination_by hi - lo

def contains (s : CodeSet) (c : Char) : Bool :=
  s.rank c.toNat 0 s.bounds.size (Nat.le_refl _) % 2 == 1

end CodeSet

end GoGlue.Text
