/-!
# Sorting by a key

Reports, lists of fixtures and the names in a directory are shown in an order
that does not depend on the order in which they were found. What is sorted has a
key with an order of its own, and items with the same key stay as they were.
-/

namespace GoldenFiles

/-- Sorts by a key, keeping the order of items whose keys are equal. -/
def sortedBy {α β : Type _} [Ord β] (key : α → β) (items : List α) : List α :=
  items.mergeSort fun a b => (compare (key a) (key b)).isLE

end GoldenFiles
