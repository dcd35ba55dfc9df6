import GoldenFiles.Text.Digits
import GoldenFiles.Yaml.Source

/-!
# Block scalars

A block scalar is a header and the lines below it that are indented to one
column. The column is given in the header or found from the first lines. A
literal scalar keeps its lines; a folded one puts a space for the single break
between two lines that do not begin with a blank. The header also says what
happens to the breaks at the end: all are dropped, one is kept, or all are.
-/

namespace GoldenFiles.Yaml

/-- What happens to the breaks after the last line. -/
inductive Chomping where
  | strip
  | clip
  | keep
  deriving DecidableEq, Repr

/-- The sign for a way of chomping, if it comes next. -/
def chomping : Source → Option Chomping × Source
  | [] => (none, [])
  | c :: rest =>
      if c.char = '+' then (some .keep, rest)
      else if c.char = '-' then (some .strip, rest)
      else (none, c :: rest)

/-- The digit for the depth of indentation, if it comes next; zero is refused. -/
def depth : Source → Option (Option Nat × Source)
  | [] => some (none, [])
  | c :: rest =>
      if c.char = '0' then none
      else if c.char.isDigit then some (some (Digits.worth c.char), rest)
      else some (none, c :: rest)

/-- The header of a block scalar. -/
structure BlockHeader where
  chomping : Chomping
  depth : Option Nat
  deriving DecidableEq, Repr

/-- The header and what follows its line. The sign and the digit may come in
either order. -/
def blockHeader (s : Source) : Option (BlockHeader × Source) :=
  let (before, s) := chomping s
  match depth s with
  | none => none
  | some (depth, s) =>
      let (after, s) := if before.isSome then (none, s) else chomping s
      s.lineEnd?.map fun s => (⟨(before.or after).getD .clip, depth⟩, s)

/-- The breaks of empty lines, the deepest column where one of them or the line
after them begins, and that line. Spaces up to the column of the scalar are
indentation; while that column is not known, all spaces are. -/
def emptyLines (indent : Option Nat) (deepest : Nat) :
    Source → Option (List Char × Nat × Source)
  | [] => some ([], deepest, [])
  | c :: rest =>
      let indenting := indent.all (c.column < ·)
      let here := max deepest c.column
      if indenting ∧ c.char = ' ' then emptyLines indent deepest rest
      else if indenting ∧ c.char = '\t' then none
      else if isBreak c.char then
        (emptyLines indent here rest).map fun (breaks, deepest, left) =>
          (c.char :: breaks, deepest, left)
      else some ([], here, c :: rest)

theorem length_emptyLines {indent : Option Nat} {deepest deepest' : Nat} {s left : Source}
    {breaks : List Char} (h : emptyLines indent deepest s = some (breaks, deepest', left)) :
    left.length ≤ s.length := by
  induction s generalizing deepest breaks with
  | nil =>
      simp only [emptyLines, Option.some.injEq, Prod.mk.injEq] at h
      simp [← h.2.2]
  | cons c rest ih =>
      rw [emptyLines] at h
      simp only [] at h
      split at h
      · have := ih h
        simp only [List.length_cons]
        omega
      · split at h
        · simp at h
        · split at h
          · simp only [Option.map_eq_some_iff, Prod.mk.injEq] at h
            obtain ⟨⟨b, d, l⟩, hb, rfl, rfl, rfl⟩ := h
            exact Nat.le_succ_of_le (ih hb)
          · simp only [Option.some.injEq, Prod.mk.injEq] at h
            simp [← h.2.2]

/-- A line of a block scalar. -/
structure BlockLine where
  text : List Char
  /-- Its break; it has none at the end of the document. -/
  ending : List Char := []
  /-- The breaks of the empty lines below it. -/
  below : List Char := []
  deriving DecidableEq, Repr

namespace BlockLine

/-- Whether a line begins with a blank, so that it is not folded. -/
def isMoreIndented (line : BlockLine) : Bool := line.text.head?.any isBlank

/-- What stands between a line and the next one. -/
def between (isFolded : Bool) (line next : BlockLine) : List Char :=
  if isFolded ∧ line.ending = ['\n'] ∧ !line.isMoreIndented ∧ !next.isMoreIndented then
    if line.below = [] then [' '] else line.below
  else line.ending ++ line.below

/-- The text of lines, up to the break of the last one. -/
def joined (isFolded : Bool) : List BlockLine → List Char
  | [] => []
  | [line] => line.text
  | line :: next :: lines =>
      line.text ++ between isFolded line next ++ joined isFolded (next :: lines)

end BlockLine

/-- What follows a line, its break and the empty lines below it is shorter. -/
theorem length_lineBelow {indent : Option Nat} {p : Char → Bool} {rest below next : Source}
    {b : Located} {breaks : List Char} {deepest : Nat} (hb : Source.after p rest = b :: below)
    (he : emptyLines indent 0 below = some (breaks, deepest, next)) :
    next.length < rest.length + 1 := by
  have h₁ := length_emptyLines he
  have h₂ := Source.length_after_le p rest
  rw [hb, List.length_cons] at h₂
  omega

/-- The lines at a column, and what follows them. -/
def blockLines (indent : Nat) (s : Source) : Option (List BlockLine × Source) :=
  match s with
  | [] => some ([], [])
  | c :: rest =>
      if c.column ≠ indent then some ([], c :: rest)
      else
        let text := c.char :: (Source.run (!isBreak ·) rest).text
        match hb : Source.after (!isBreak ·) rest with
        | [] => some ([⟨text, [], []⟩], [])
        | b :: below =>
            match he : emptyLines (some indent) 0 below with
            | none => none
            | some (breaks, _, next) =>
                have := length_lineBelow hb he
                (blockLines indent next).map fun (lines, left) =>
                  (⟨text, [b.char], breaks⟩ :: lines, left)
termination_by s.length
decreasing_by exact this

/-- What is kept of the breaks at the end. -/
def Chomping.kept (how : Chomping) (leading : List Char) (last : Option BlockLine) : List Char :=
  match how, last with
  | .strip, _ | .clip, none => []
  | .clip, some line => line.ending
  | .keep, some line => line.ending ++ line.below
  | .keep, none => leading

/-- The block scalar whose header comes next, below a collection at a column. -/
def blockScalar (isFolded : Bool) (parent : Option Nat) (s : Source) :
    Option (List Char × Source) :=
  match blockHeader s with
  | none => none
  | some (header, s) =>
      let given := header.depth.map (parent.getD 0 + ·)
      match emptyLines given 0 s with
      | none => none
      | some (leading, deepest, s) =>
          let found := max deepest (max (parent.elim 0 (· + 1)) 1)
          (blockLines (given.getD found) s).map fun (lines, rest) =>
            let front := if lines = [] then [] else leading
            (front ++ BlockLine.joined isFolded lines ++
              header.chomping.kept leading lines.getLast?, rest)

end GoldenFiles.Yaml
