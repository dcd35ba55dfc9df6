import GoldenFiles.Json
import GoldenFiles.Text.Digits

/-!
# What a JSON document is

A text spells a value if it is the tokens of the value, one after the other, with
blanks anywhere between them. So the grammar is cut into two layers: brackets and
commas are a function from values to tokens, while the characters of the tokens
are a relation, because blanks and escapes leave a choice.

Two things that JSON allows are left out, as no document here has them: the words
for truth values, and a pair of escapes for one character above U+FFFF.
-/

namespace GoldenFiles.Json

/-- Induction on values, with the hypothesis for everything in a list or object. -/
@[elab_as_elim]
theorem induct {motive : Json → Prop} (null : motive null)
    (number : ∀ literal, motive (number literal)) (string : ∀ text, motive (string text))
    (array : ∀ items, (∀ v ∈ items, motive v) → motive (array items))
    (object : ∀ members, (∀ m ∈ members, motive m.2) → motive (object members))
    (v : Json) : motive v :=
  @Json.rec motive (fun items => ∀ v ∈ items, motive v) (fun members => ∀ m ∈ members, motive m.2)
    (fun m => motive m.2) null number string array object nofun
    (fun _ _ head tail => List.forall_mem_cons.mpr ⟨head, tail⟩) nofun
    (fun _ _ head tail => List.forall_mem_cons.mpr ⟨head, tail⟩) (fun _ _ value => value) v

/-! ## Numerals -/

/-- Digits of which the first is a zero only if it stands alone. -/
structure Whole (chars : List Char) : Prop extends Digits chars where
  alone : chars.head? = some '0' → chars = ['0']

inductive Fraction : List Char → Prop where
  | none : Fraction []
  | digits {ds : List Char} (h : Digits ds) : Fraction ('.' :: ds)

inductive Power : List Char → Prop where
  | none : Power []
  | digits {e : Char} {sign ds : List Char} (he : e = 'e' ∨ e = 'E')
      (hsign : sign = [] ∨ sign = ['+'] ∨ sign = ['-']) (h : Digits ds) : Power (e :: (sign ++ ds))

/-- The text of a number. -/
inductive Numeral : List Char → Prop where
  | mk {sign whole fraction power : List Char} (hsign : sign = [] ∨ sign = ['-'])
      (hwhole : Whole whole) (hfraction : Fraction fraction) (hpower : Power power) :
      Numeral (sign ++ (whole ++ (fraction ++ power)))

/-! ## Strings -/

/-- The character that a backslash and this one stand for. -/
def short? : Char → Option Char
  | '\x22' => some '\x22'
  | '\\' => some '\\'
  | '/' => some '/'
  | 'b' => some '\x08'
  | 'f' => some '\x0c'
  | 'n' => some '\n'
  | 'r' => some '\r'
  | 't' => some '\t'
  | _ => none

/-- The character that four hexadecimal digits number. -/
def numbered? (a b c d : Char) : Option Char := do
  let n := (((← hexDigit? a) * 16 + (← hexDigit? b)) * 16 + (← hexDigit? c)) * 16 + (← hexDigit? d)
  if n.isValidChar then some (Char.ofNat n) else none

/-- How a character is spelled in a string. -/
inductive SpelledChar : Char → List Char → Prop where
  | itself {c : Char} (control : 0x20 ≤ c.toNat) (quote : c ≠ '\x22') (backslash : c ≠ '\\') :
      SpelledChar c [c]
  | short {c e : Char} (h : short? e = some c) : SpelledChar c ['\\', e]
  | numbered {x a b c d : Char} (h : numbered? a b c d = some x) :
      SpelledChar x ['\\', 'u', a, b, c, d]

inductive SpelledChars : List Char → List Char → Prop where
  | nil : SpelledChars [] []
  | cons {c : Char} {text chars rest : List Char} (h : SpelledChar c chars)
      (more : SpelledChars text rest) : SpelledChars (c :: text) (chars ++ rest)

/-! ## Tokens -/

inductive Token where
  | openArray | closeArray | openObject | closeObject | comma | colon
  | null
  | number (literal : String)
  | string (text : String)
  deriving DecidableEq, Repr

/-- How a token is spelled. -/
inductive Token.Spelled : Token → List Char → Prop where
  | openArray : Spelled openArray ['[']
  | closeArray : Spelled closeArray [']']
  | openObject : Spelled openObject ['\x7b']
  | closeObject : Spelled closeObject ['\x7d']
  | comma : Spelled comma [',']
  | colon : Spelled colon [':']
  | null : Spelled null ['n', 'u', 'l', 'l']
  | number {literal : String} (h : Numeral literal.toList) :
      Spelled (number literal) literal.toList
  | string {text : String} {chars : List Char} (h : SpelledChars text.toList chars) :
      Spelled (string text) ('\x22' :: (chars ++ ['\x22']))

/-- The characters that may stand between tokens. -/
def isBlank (c : Char) : Bool := c = ' ' ∨ c = '\t' ∨ c = '\n' ∨ c = '\r'

/-- A text of tokens, with blanks anywhere between them. -/
inductive Lexes : List Token → List Char → Prop where
  | nil : Lexes [] []
  | blank {tokens : List Token} {c : Char} {text : List Char} (h : isBlank c)
      (more : Lexes tokens text) : Lexes tokens (c :: text)
  | token {t : Token} {tokens : List Token} {chars text : List Char} (h : t.Spelled chars)
      (more : Lexes tokens text) : Lexes (t :: tokens) (chars ++ text)

mutual

/-- The tokens of a value. -/
def tokens : Json → List Token
  | .null => [.null]
  | .number literal => [.number literal]
  | .string text => [.string text]
  | .array items => .openArray :: ([.comma].intercalate (eachItem items) ++ [.closeArray])
  | .object members => .openObject :: ([.comma].intercalate (eachMember members) ++ [.closeObject])

def eachItem : List Json → List (List Token)
  | [] => []
  | item :: items => tokens item :: eachItem items

def eachMember : List (String × Json) → List (List Token)
  | [] => []
  | (key, value) :: members => (.string key :: .colon :: tokens value) :: eachMember members

end

/-- A text is a document for a value. -/
def Spells (v : Json) (text : List Char) : Prop := Lexes (tokens v) text

/-! ## Lists and objects -/

/-- The tokens of many things, with commas between them. -/
def listed {α : Type} (ts : α → List Token) (xs : List α) : List Token :=
  [.comma].intercalate (xs.map ts)

def memberTokens (m : String × Json) : List Token := .string m.1 :: .colon :: tokens m.2

section Listed

variable {α : Type} (ts : α → List Token)

@[simp] theorem listed_nil : listed ts [] = [] := rfl

@[simp] theorem listed_singleton (x : α) : listed ts [x] = ts x := by simp [listed]

@[simp] theorem listed_cons_cons (x y : α) (xs : List α) :
    listed ts (x :: y :: xs) = ts x ++ .comma :: listed ts (y :: xs) := by
  simp [listed, List.intercalate_cons_cons]

/-- Between many things there is one comma less. -/
theorem length_le_listed (xs : List α) : xs.length ≤ (listed ts xs).length + 1 := by
  induction xs with
  | nil => exact Nat.zero_le _
  | cons x xs ih =>
      cases xs with
      | nil => simp
      | cons y xs =>
          simp only [listed_cons_cons, List.length_append, List.length_cons] at ih ⊢
          omega

theorem length_le_listed_of_mem {x : α} {xs : List α} (h : x ∈ xs) :
    (ts x).length ≤ (listed ts xs).length := by
  induction xs with
  | nil => cases h
  | cons y xs ih =>
      cases xs with
      | nil =>
          obtain rfl := List.mem_singleton.mp h
          exact Nat.le_of_eq (congrArg List.length (listed_singleton ts x).symm)
      | cons z xs =>
          rw [listed_cons_cons, List.length_append, List.length_cons]
          obtain rfl | h := List.mem_cons.mp h
          · omega
          · have hlater := ih h
            omega

end Listed

theorem tokens_array (items : List Json) :
    tokens (.array items) = .openArray :: (listed tokens items ++ [.closeArray]) := by
  have heach : eachItem items = items.map tokens := by
    induction items with
    | nil => rfl
    | cons item items ih => rw [eachItem, ih, List.map_cons]
  rw [tokens, heach, listed]

theorem tokens_object (members : List (String × Json)) :
    tokens (.object members) = .openObject :: (listed memberTokens members ++ [.closeObject]) := by
  have heach : eachMember members = members.map memberTokens := by
    induction members with
    | nil => rfl
    | cons m members ih => rw [eachMember, ih, List.map_cons, memberTokens]
  rw [tokens, heach, listed]

/-! ## Texts of tokens -/

theorem Lexes.append {before after : List Token} {text rest : List Char} (h : Lexes before text)
    (h' : Lexes after rest) : Lexes (before ++ after) (text ++ rest) := by
  induction h with
  | nil => exact h'
  | blank hc _ ih => exact .blank hc ih
  | token ht _ ih =>
      rw [List.cons_append, List.append_assoc]
      exact .token ht ih

theorem Lexes.blanks {ts : List Token} {blanks text : List Char} (hb : ∀ c ∈ blanks, isBlank c)
    (h : Lexes ts text) : Lexes ts (blanks ++ text) := by
  induction blanks with
  | nil => exact h
  | cons c blanks ih =>
      obtain ⟨hc, hrest⟩ := List.forall_mem_cons.mp hb
      exact .blank hc (ih hrest)

theorem Token.Spelled.lexes {t : Token} {chars : List Char} (h : t.Spelled chars) :
    Lexes [t] chars := by
  rw [← List.append_nil chars]
  exact .token h .nil

/-! ## Values with proper numbers -/

/-- Every number in a value is a numeral. -/
def Proper (v : Json) : Prop := ∀ literal, .number literal ∈ tokens v → Numeral literal.toList

theorem number_mem_listed_iff {α : Type} (literal : String) (ts : α → List Token) (xs : List α) :
    .number literal ∈ listed ts xs ↔ ∃ x ∈ xs, .number literal ∈ ts x := by
  induction xs with
  | nil => simp
  | cons x xs ih =>
      cases xs with
      | nil => simp
      | cons y xs =>
          rw [listed_cons_cons, List.mem_append, List.mem_cons, ih]
          simp

@[simp] theorem proper_null : Proper .null := fun _ h => by simp [tokens] at h

@[simp] theorem proper_string (text : String) : Proper (.string text) := fun _ h => by simp [tokens] at h

theorem proper_number_iff (literal : String) :
    Proper (.number literal) ↔ Numeral literal.toList := by
  simp [Proper, tokens]

theorem proper_array_iff (items : List Json) :
    Proper (.array items) ↔ ∀ v ∈ items, Proper v := by
  have hinner (literal : String) : .number literal ∈ tokens (.array items) ↔
      ∃ v ∈ items, .number literal ∈ tokens v := by
    rw [← number_mem_listed_iff, tokens_array]
    simp
  simp only [Proper, hinner]
  exact ⟨fun h v hv literal hl => h literal ⟨v, hv, hl⟩, fun h literal ⟨v, hv, hl⟩ =>
    h v hv literal hl⟩

theorem proper_object_iff (members : List (String × Json)) :
    Proper (.object members) ↔ ∀ m ∈ members, Proper m.2 := by
  have hinner (literal : String) : .number literal ∈ tokens (.object members) ↔
      ∃ m ∈ members, .number literal ∈ memberTokens m := by
    rw [← number_mem_listed_iff, tokens_object]
    simp
  simp only [Proper, hinner]
  exact ⟨fun h m hm literal hl => h literal ⟨m, hm, by simpa [memberTokens] using hl⟩,
    fun h literal ⟨m, hm, hl⟩ => h m hm literal (by simpa [memberTokens] using hl)⟩

end GoldenFiles.Json
