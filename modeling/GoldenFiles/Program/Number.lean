import GoldenFiles.Program.Process

/-!
# Numbers in text

Programs read a number as far as it goes: blanks, a sign, a mark for the base
and digits, and leave the rest to whoever asked. A number that is too large for
64 bits is taken for the nearest one that is not.
-/

namespace GoldenFiles.Program

/-- The value of a digit, letters counted on from ten. -/
def digitValue (c : Char) : Nat :=
  if c.isDigit then Digits.worth c else c.toLower.toNat - 'a'.toNat + 10

/-- Whether a character is a digit of a base up to sixteen. -/
def isDigitOf (base : Nat) (c : Char) : Bool :=
  (c.isDigit || ('a' ≤ c.toLower && c.toLower ≤ 'f')) && digitValue c < base

/-- The value of digits of a base. -/
def valueOf (base : Nat) (digits : Text) : Nat :=
  digits.foldl (fun n c => n * base + digitValue c) 0

/-- Whether a character is a blank of any kind. -/
def isSpace (c : Char) : Bool := c ∈ [' ', '\t', '\n', '\u000B', '\u000C', '\r']

/-- A number that was read. -/
structure NumberRead where
  negative : Bool := false
  /-- The number without its sign. -/
  magnitude : Nat := 0
  /-- What follows the number; all of the text, if there is none. -/
  rest : Text
  deriving DecidableEq, Repr

/-- Splits the sign off a number. -/
def splitSign : Text → Bool × Text
  | '-' :: rest => (true, rest)
  | '+' :: rest => (false, rest)
  | text => (false, text)

/-- The base that the front of a number tells, and the digits. A mark counts
only if a digit comes behind it. -/
def splitBase (text : Text) : Nat × Text :=
  let marked (base : Nat) (digits : Text) : Option (Nat × Text) :=
    if digits.head?.any (isDigitOf base) then some (base, digits) else none
  match text with
  | '0' :: 'x' :: digits | '0' :: 'X' :: digits => (marked 16 digits).getD (8, text)
  | '0' :: 'b' :: digits | '0' :: 'B' :: digits => (marked 2 digits).getD (8, text)
  | '0' :: _ => (8, text)
  | _ => (10, text)

/-- Reads the number that a text begins with: a decimal one, or one that tells
its base. -/
def readNumber (tellsBase : Bool) (text : Text) : NumberRead :=
  let (negative, unsigned) := splitSign (text.dropWhile isSpace)
  let (base, digits) := if tellsBase then splitBase unsigned else (10, unsigned)
  let found := digits.takeWhile (isDigitOf base)
  if found = [] then { rest := text }
  else
    { negative := negative
      magnitude := valueOf base found
      rest := digits.drop found.length }

namespace NumberRead

/-- The greatest magnitude of a signed number. -/
def signedLimit (n : NumberRead) : Nat :=
  if n.negative then Nat.pow 2 63 else Nat.pow 2 63 - 1

/-- The signed number, or the nearest there is, and whether it is the number
itself. -/
def signed (n : NumberRead) : Int × Bool :=
  let magnitude := min n.magnitude n.signedLimit
  (if n.negative then -(magnitude : Int) else magnitude, n.magnitude ≤ n.signedLimit)

/-- The number without a sign, or the greatest there is, and whether it is the
number itself. One below zero counts from the greatest down. -/
def natural (n : NumberRead) : Nat × Bool :=
  let greatest := Nat.pow 2 64 - 1
  if greatest < n.magnitude then (greatest, false)
  else if n.negative ∧ n.magnitude ≠ 0 then (Nat.pow 2 64 - n.magnitude, true)
  else (n.magnitude, true)

end NumberRead

end GoldenFiles.Program
