import GoldenFiles.Content.Lines

/-!
# Comparing two contents

Contents agree when their line sequences do. When they do not, the answer says
where a reader has to look: the first line that differs, counted from one, and
how many lines each side has. Two sequences of which one continues the other
differ at the first line that only the longer one has.
-/

namespace GoldenFiles.Content

/-- Where two line sequences first diverge. -/
structure Mismatch where
  line : Nat
  expectedLines : Nat
  actualLines : Nat
  deriving DecidableEq, Repr

/-- The outcome of comparing two contents. -/
inductive Comparison where
  | equal
  | differ (mismatch : Mismatch)
  deriving DecidableEq, Repr

/-- The index of the first place where two sequences disagree: the first pair
that differs, or else the end of the shorter one. -/
def firstDifference {α : Type _} [DecidableEq α] (xs ys : List α) : Option Nat :=
  match (xs.zip ys).findIdx? (fun pair => pair.1 ≠ pair.2) with
  | some index => some index
  | none => if xs.length = ys.length then none else some (min xs.length ys.length)

/-- Compares two contents as whole line sequences. -/
def compare (actual expected : Bytes) : Comparison :=
  let actual := lines actual
  let expected := lines expected
  match firstDifference actual expected with
  | none => .equal
  | some index => .differ ⟨index + 1, expected.length, actual.length⟩

end GoldenFiles.Content
