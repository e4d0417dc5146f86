/-!
Sets of code points.

A set is given by the code points at which a walk upwards enters it and leaves it, by turns and from
entering on.
-/

namespace ImageRelease.Text

structure CodeSet where
  changes : List Nat

def CodeSet.contains (s : CodeSet) (c : Char) : Bool :=
  (s.changes.takeWhile (· ≤ c.toNat)).length % 2 == 1

end ImageRelease.Text
