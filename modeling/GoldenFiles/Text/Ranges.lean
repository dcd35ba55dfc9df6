/-!
# Sets of characters

A property of characters is a list of ranges of code points, first and last
included.
-/

namespace GoldenFiles.Text

/-- Ranges of code points. -/
abbrev Ranges := List (Nat × Nat)

/-- Whether one of the ranges holds a character. -/
def Ranges.contains (ranges : Ranges) (c : Char) : Bool :=
  ranges.any fun (first, last) => first ≤ c.toNat && c.toNat ≤ last

end GoldenFiles.Text
