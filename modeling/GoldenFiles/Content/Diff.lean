import GoldenFiles.Text.Separated

/-!
# The difference of two texts, line by line

Two texts are aligned along a common subsequence of their lines, and what
stands between the common lines was removed from the one or added to the other.

The subsequence is read off a table of lengths, from its last cell back to its
first. Where two lines differ, the way leads to the left only if the cell there
is larger than the one above; and since the cells lie row after row, the left
neighbour of a first cell is the last cell of the row above. Both choices can
be seen in the printed difference, so both are rules here.

A text of one blank line counts as no line. That goes for the common
subsequence too, so a single blank line that two texts share is shown as
removed and added.
-/

namespace GoldenFiles.Diff

/-- A line of text. -/
abbrev Line := List Char

/-- A run of lines that both texts have, or only one. -/
inductive Change where
  | same (lines : List Line)
  | removed (lines : List Line)
  | added (lines : List Line)
  deriving DecidableEq, Repr

/-- The lines of a change. -/
def Change.lines : Change → List Line
  | same lines | removed lines | added lines => lines

/-- A row of the table for one line against all of `bs`. The row above, the
cell diagonally above and the cell to the left are zero at the borders. -/
def row (a : Line) : List Line → List Nat → Nat → Nat → List Nat
  | b :: bs, up :: above, diagonal, left =>
      let cell := if a = b then diagonal + 1 else max left up
      cell :: row a bs above up cell
  | _, _, _, _ => []

/-- The rows of the table after a row. -/
def rows (bs : List Line) : List Line → List Nat → List (List Nat)
  | [], _ => []
  | a :: as, above =>
      let next := row a bs above 0 0
      next :: rows bs as next

/-- The table of the lengths of common subsequences, cell by cell. -/
def table (as bs : List Line) : Array Nat :=
  (rows bs as (List.replicate bs.length 0)).flatten.toArray

/-- Walks back through a table over texts of `m` columns from row `i` and column
`j`, both counted from one; common lines are put in front of `found`. -/
def trace (as bs : Array Line) (cells : Array Nat) (m : Nat) :
    (i j : Nat) → List Line → List Line
  | 0, _, found | _, 0, found => found
  | i + 1, j + 1, found =>
      let a := as.getD i []
      if a = bs.getD j [] then trace as bs cells m i j (a :: found)
      else if i = 0 ∧ j = 0 then found
      else if i = 0 ∨ cells.getD ((i - 1) * m + j) 0 < cells.getD (i * m + j - 1) 0 then
        trace as bs cells m (i + 1) j found
      else trace as bs cells m i (j + 1) found
termination_by i j => i + j

/-- A common subsequence of two lists of lines. -/
def common (as bs : List Line) : List Line :=
  trace as.toArray bs.toArray (table as bs) bs.length as.length bs.length []

/-- The lines of a text; one blank line is none. -/
def linesOf (lines : List Line) : List Line := if lines = [[]] then [] else lines

/-- Splits off the lines that both texts share with the front of the common
ones. -/
def takeSame : List Line → List Line → List Line →
    List Line × List Line × List Line × List Line
  | a :: as, b :: bs, c :: cs =>
      if a = c ∧ b = c then
        let (same, as, bs, cs) := takeSame as bs cs
        (a :: same, as, bs, cs)
      else ([], a :: as, b :: bs, c :: cs)
  | as, bs, cs => ([], as, bs, cs)

/-- The lines before the next common one, and the rest. -/
def takeOther (next : Option Line) (lines : List Line) : List Line × List Line :=
  (lines.takeWhile (some · ≠ next), lines.dropWhile (some · ≠ next))

/-- The changes along the common lines, in at most a number of rounds. -/
def align : Nat → List Line → List Line → List Line → List Change
  | 0, _, _, _ => []
  | rounds + 1, as, bs, cs =>
      if as = [] ∧ bs = [] then []
      else
        let (same, as, bs, cs) := takeSame as bs cs
        let (removed, as) := takeOther cs.head? as
        let (added, bs) := takeOther cs.head? bs
        let part (change : List Line → Change) (lines : List Line) : List Change :=
          if lines = [] then [] else [change lines]
        part .same same ++ part .removed removed ++ part .added added ++
          align rounds as bs cs

/-- The changes that make the second of two texts, given by their lines, from
the first. Every round uses up at least one line. -/
def changes (expected actual : List Line) : List Change :=
  align (expected.length + actual.length) (linesOf expected) (linesOf actual)
    (linesOf (common expected actual))

end GoldenFiles.Diff
