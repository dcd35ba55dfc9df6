import GoldenFiles.Yaml.Folding

/-!
# Plain scalars

A plain scalar is a row of words with white space between them. It has no end
mark of its own: it ends before a colon that white space follows, before a
comment, before a line that is not indented deeply enough, and, inside square
brackets or braces, before the marks that structure those.
-/

namespace GoldenFiles.Yaml

/-- The marks that structure collections in brackets and braces. -/
def isFlowMark (c : Char) : Bool := c ∈ [',', '[', ']', '\x7b', '\x7d']

/-- Whether a word cannot go on. -/
def endsWord (flow : Bool) : Source → Bool
  | [] => true
  | c :: rest =>
      isWhite c.char || (c.char = ':' && Source.atGap rest) || (flow && isFlowMark c.char)

/-- Whether a colon comes next that could be meant as a value mark or as a part
of a word; it is refused. -/
def atUnclearColon (flow : Bool) : Source → Bool
  | c :: d :: _ => flow && c.char = ':' && (isFlowMark d.char || d.char = '?')
  | _ => false

/-- The next word, which may be empty, and what follows it. -/
def word (flow : Bool) : Source → Option (List Char × Source)
  | [] => some ([], [])
  | c :: rest =>
      if atUnclearColon flow (c :: rest) then none
      else if endsWord flow (c :: rest) then some ([], c :: rest)
      else (word flow rest).map fun (letters, left) => (c.char :: letters, left)

theorem length_word {flow : Bool} {s left : Source} {letters : List Char}
    (h : word flow s = some (letters, left)) : letters.length + left.length = s.length := by
  induction s generalizing letters left with
  | nil =>
      simp only [word, Option.some.injEq, Prod.mk.injEq] at h
      simp [← h.1, ← h.2]
  | cons c rest ih =>
      rw [word] at h
      split at h
      · simp at h
      · split at h
        · simp only [Option.some.injEq, Prod.mk.injEq] at h
          simp [← h.1, ← h.2]
        · simp only [Option.map_eq_some_iff, Prod.mk.injEq] at h
          obtain ⟨⟨w, l⟩, hw, rfl, rfl⟩ := h
          have := ih hw
          simp only [List.length_cons]
          omega

/-- Whether a plain scalar may go on with the line that comes next. -/
def mayGoOn (flow : Bool) (indent : Nat) : Source → Bool
  | [] => false
  | c :: rest =>
      (flow || indent ≤ c.column) && !Source.atDocumentMark (c :: rest) && c.char ≠ '#'

/-- Whether a tab stands where indentation is expected. -/
def hasTabIndent (indent : Nat) (run : Source) : Bool :=
  (run.after (!isBreak ·)).any fun c => c.char = '\t' && c.column < indent

/-- What a plain scalar is found to be. -/
structure PlainScalar where
  text : List Char
  /-- Whether white space up to a later line was read after it. -/
  endsLine : Bool
  rest : Source
  deriving DecidableEq, Repr

/-- The part of a plain scalar after one of its words. -/
def plainAfter (flow : Bool) (indent : Nat) (s : Source) : Option PlainScalar :=
  let gap := s.run isWhite
  let next := s.after isWhite
  let stop : PlainScalar := ⟨[], gap.any (isBreak ·.char), next⟩
  if hasTabIndent indent gap then none
  else if !mayGoOn flow indent next then some stop
  else
    match h : word flow next with
    | none => none
    | some ([], _) => some stop
    | some (c :: letters, left) =>
        have : left.length < s.length := by
          have hw := length_word h
          have hs : next.length ≤ s.length := s.length_after_le isWhite
          simp only [List.length_cons] at hw
          omega
        (plainAfter flow indent left).map fun p =>
          { p with text := folded gap.text ++ c :: letters ++ p.text }
termination_by s.length

/-- The plain scalar that comes next. -/
def plain (flow : Bool) (indent : Nat) (s : Source) : Option PlainScalar :=
  match word flow s with
  | none => none
  | some (letters, left) =>
      (plainAfter flow indent left).map fun p => { p with text := letters ++ p.text }

end GoldenFiles.Yaml
