import GoldenFiles.Yaml.Node
import Mathlib.Data.List.Forall2
import Mathlib.Data.Nat.Digits.Defs

/-!
# Mappings on lines of their own

The plain way to write a mapping: one line for each entry, with a key, a colon,
a space and a value. What may be written in this way is fixed here, before
anything is read, by types that hold a text together with how it is spelled.

A quoted text may spell each character as it likes, as itself where that is
allowed inside a line, by a letter or by its number (`Quoted`); there is always
a spelling (`exists_quoted`), so no text is left out. Words are letters that
mean nothing to the structure of a document, and enough for numbers and for the
words of a setting.
-/

namespace GoldenFiles.Yaml

/-! ## Spelling -/

/-- The characters that end a line. -/
def lineEnds : List Char := ['\n', '\r', '\u0085', '\u2028', '\u2029']

/-- Whether a character may stand inside a line. -/
def IsInline (c : Char) : Prop := isAllowed c ∧ c ∉ lineEnds

instance : DecidablePred IsInline := fun _ => inferInstanceAs (Decidable (_ ∧ _))

/-- The letters that follow a backslash, and what they stand for. -/
def escapeLetters : List (Char × Char) :=
  [('0', '\u0000'), ('a', '\u0007'), ('b', '\u0008'), ('t', '\t'), ('\t', '\t'), ('n', '\n'),
    ('v', '\u000B'), ('f', '\u000C'), ('r', '\r'), ('e', '\u001B'), (' ', ' '),
    ('\x22', '\x22'), ('/', '/'), ('\\', '\\'), ('N', '\u0085'), ('_', '\u00A0'),
    ('L', '\u2028'), ('P', '\u2029')]

/-- The marks of numbers, and how many digits follow them. -/
def numberMarks : List (Char × Nat) := [('x', 2), ('u', 4), ('U', 8)]

/-- A digit of a number in base sixteen, in small or large letters. -/
def IsHexDigit (c : Char) (d : Nat) : Prop :=
  d < 16 ∧ (c = Nat.digitChar d ∨ c = (Nat.digitChar d).toUpper)

instance (c : Char) (d : Nat) : Decidable (IsHexDigit c d) :=
  inferInstanceAs (Decidable (_ ∧ _))

/-- What stands between double quotes for a text. -/
inductive Quoted : (text content : List Char) → Prop where
  | nil : Quoted [] []
  | raw {c : Char} {text content : List Char} (inline : IsInline c) (quote : c ≠ '\x22')
      (backslash : c ≠ '\\') (rest : Quoted text content) : Quoted (c :: text) (c :: content)
  | letter {letter c : Char} {text content : List Char} (meaning : (letter, c) ∈ escapeLetters)
      (rest : Quoted text content) : Quoted (c :: text) ('\\' :: letter :: content)
  | number {mark c : Char} {digits : List Char} {values : List Nat} {text content : List Char}
      (marked : (mark, digits.length) ∈ numberMarks)
      (spelled : List.Forall₂ IsHexDigit digits values)
      (value : c.toNat = Nat.ofDigits 16 values.reverse) (rest : Quoted text content) :
      Quoted (c :: text) ('\\' :: mark :: (digits ++ content))

/-- Letters stand for themselves. -/
theorem quoted_self {text : List Char}
    (h : text.all fun c => IsInline c ∧ c ≠ '\x22' ∧ c ≠ '\\') : Quoted text text := by
  induction text with
  | nil => exact .nil
  | cons c text ih =>
      obtain ⟨hc, htext⟩ := Bool.and_eq_true_iff.mp h
      obtain ⟨inline, quote, backslash⟩ := of_decide_eq_true hc
      exact .raw inline quote backslash (ih htext)

/-- The eight digits of a number in base sixteen, the lowest last. -/
def eightDigits (n : Nat) : List Nat :=
  [7, 6, 5, 4, 3, 2, 1, 0].map fun place => n / 16 ^ place % 16

theorem ofDigits_eightDigits {n : Nat} (h : n < 2 ^ 32) :
    n = Nat.ofDigits 16 (eightDigits n).reverse := by
  simp only [eightDigits, List.map_cons, List.map_nil, List.reverse_cons, List.reverse_nil,
    List.nil_append, List.cons_append, Nat.ofDigits_cons, Nat.ofDigits_nil]
  omega

/-- Every text can be quoted, if need be character by character by number. -/
theorem exists_quoted (text : List Char) : ∃ content, Quoted text content := by
  induction text with
  | nil => exact ⟨[], .nil⟩
  | cons c text ih =>
      obtain ⟨content, h⟩ := ih
      have hdigits : List.Forall₂ IsHexDigit ((eightDigits c.toNat).map Nat.digitChar)
          (eightDigits c.toNat) := by
        rw [List.forall₂_map_left_iff, List.forall₂_same]
        intro d hd
        obtain ⟨place, -, rfl⟩ := List.mem_map.mp hd
        exact ⟨Nat.mod_lt _ (by omega), .inl rfl⟩
      have hmark : ('U', ((eightDigits c.toNat).map Nat.digitChar).length) ∈ numberMarks := by
        show ('U', 8) ∈ numberMarks
        decide
      exact ⟨_, .number hmark hdigits (ofDigits_eightDigits c.val.toNat_lt) h⟩

/-- Letters that mean nothing to the structure of a document. -/
def IsWord (letters : List Char) : Prop :=
  letters ≠ [] ∧ letters.head? ≠ some '-' ∧ letters.all isNameChar

instance : DecidablePred IsWord := fun _ => inferInstanceAs (Decidable (_ ∧ _ ∧ _))

/-! ## Lines -/

/-- A text in double quotes. -/
structure QuotedText where
  text : List Char
  content : List Char
  quoted : Quoted text content

/-- A scalar that is written inside a line. -/
inductive Scalar where
  | word (letters : List Char) (isWord : IsWord letters)
  | quoted (q : QuotedText)

/-- A value that is written inside a line. -/
inductive Value where
  | scalar (s : Scalar)
  | list (items : List QuotedText)

/-- An entry on a line of its own. -/
structure Line where
  key : Scalar
  value : Value

def QuotedText.written (q : QuotedText) : List Char := '\x22' :: (q.content ++ ['\x22'])

def QuotedText.node (q : QuotedText) : Node := .scalar {} .doubleQuoted (.ofList q.text)

namespace Scalar

def text : Scalar → List Char
  | word letters _ => letters
  | quoted q => q.text

def written : Scalar → List Char
  | word letters _ => letters
  | quoted q => q.written

def node : Scalar → Node
  | word letters _ => .scalar {} .plain (.ofList letters)
  | quoted q => q.node

end Scalar

/-- The items of a list, with a comma and a space after all but the last. -/
def writtenItems : List QuotedText → List Char
  | [] => []
  | [q] => q.written
  | q :: items => q.written ++ ',' :: ' ' :: writtenItems items

namespace Value

def written : Value → List Char
  | scalar s => s.written
  | list items => '[' :: (writtenItems items ++ [']'])

def node : Value → Node
  | scalar s => s.node
  | list items => .sequence {} (items.map QuotedText.node)

end Value

namespace Line

/-- A line without its end. -/
def content (l : Line) : List Char := l.key.written ++ ':' :: ' ' :: l.value.written

def written (l : Line) : List Char := l.content ++ ['\n']

/-- The entry that a line makes. -/
def entry (l : Line) : Node × Node := (l.key.node, l.value.node)

end Line

def writtenLines (lines : List Line) : List Char := lines.flatMap Line.written

end GoldenFiles.Yaml
