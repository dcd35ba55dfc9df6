/-!
# The characters of a document, and where they stand

Structure in a document is carried by columns, so a document is read as a list
of characters that each know their line and column. Before that, every way of
ending a line but the two Unicode separators has become a line feed, which is
how a line break reads in a scalar; no rule tells them apart.
-/

namespace GoldenFiles.Yaml

/-- Whether a character may stand in a document at all. -/
def isAllowed (c : Char) : Bool :=
  let n := c.toNat
  n = 0x09 ∨ n = 0x0A ∨ n = 0x0D ∨ (0x20 ≤ n ∧ n ≤ 0x7E) ∨ n = 0x85 ∨
    (0xA0 ≤ n ∧ n ≤ 0xD7FF) ∨ (0xE000 ≤ n ∧ n ≤ 0xFFFD) ∨ 0x10000 ≤ n

/-- Every carriage return, next-line character and pair of carriage return and
line feed as one line feed. -/
def normalized : List Char → List Char
  | '\r' :: '\n' :: rest => '\n' :: normalized rest
  | '\r' :: rest => '\n' :: normalized rest
  | '\u0085' :: rest => '\n' :: normalized rest
  | c :: rest => c :: normalized rest
  | [] => []

/-- Whether a character ends a line. -/
def isBreak (c : Char) : Bool := c = '\n' ∨ c = '\u2028' ∨ c = '\u2029'

/-- Whether a character is a space or a tab. -/
def isBlank (c : Char) : Bool := c = ' ' ∨ c = '\t'

/-- Whether a character separates words. -/
def isWhite (c : Char) : Bool := isBlank c || isBreak c

/-- The mark that a text may begin with to show its encoding. -/
def byteOrderMark : Char := '\uFEFF'

/-- Whether a character may stand in a name. -/
def isNameChar (c : Char) : Bool := c.isAlphanum || c = '_' || c = '-'

/-- A character and where it stands. -/
structure Located where
  char : Char
  line : Nat
  column : Nat
  deriving DecidableEq, Repr

/-- What is still to be read. -/
abbrev Source := List Located

/-- The characters of a text that begins at a line and a column. -/
def locate : List Char → (line column : Nat) → Source
  | [], _, _ => []
  | c :: rest, line, column =>
      ⟨c, line, column⟩ ::
        if isBreak c then locate rest (line + 1) 0 else locate rest line (column + 1)

namespace Source

/-- The characters alone. -/
def text (s : Source) : List Char := s.map Located.char

/-- The character that comes next. -/
def next? (s : Source) : Option Char := s.head?.map Located.char

/-- What follows the character that comes next. -/
def skip (s : Source) : Source := List.tail s

/-- The longest beginning whose characters all pass a test. -/
def run (p : Char → Bool) (s : Source) : Source := s.takeWhile (p ·.char)

/-- What is left after the longest beginning whose characters all pass a test. -/
def after (p : Char → Bool) (s : Source) : Source := s.dropWhile (p ·.char)

/-- Whether white space or the end comes next. -/
def atGap : Source → Bool
  | [] => true
  | c :: _ => isWhite c.char

/-- Whether a line break or the end comes next. -/
def atLineEnd : Source → Bool
  | [] => true
  | c :: _ => isBreak c.char

/-- Whether three marks, alone at the start of a line, come next. -/
def atTriple (mark : Char) : Source → Bool
  | a :: b :: c :: rest =>
      a.column = 0 && a.char = mark && b.char = mark && c.char = mark && atGap rest
  | _ => false

/-- Whether the start or the end of a document is marked next. -/
def atDocumentMark (s : Source) : Bool := s.atTriple '-' || s.atTriple '.'

/-- The rest of a line on which only a comment may stand, line break included. -/
def lineEnd? (s : Source) : Option Source :=
  let s := s.after isBlank
  let s := if s.next? = some '#' then s.after (!isBreak ·) else s
  if s.atLineEnd then some s.skip else none

theorem length_after_le (p : Char → Bool) (s : Source) : (s.after p).length ≤ s.length :=
  (List.dropWhile_sublist _).length_le

end Source

end GoldenFiles.Yaml
