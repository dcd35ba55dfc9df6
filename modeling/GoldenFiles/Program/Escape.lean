import GoldenFiles.Program.Number

/-!
# Escapes

Programs that print know a few escapes for characters that are hard to type. An
escape is a backslash and what comes behind it. Which escapes are known differs
from place to place; a backslash that begins none stands for itself.
-/

namespace GoldenFiles.Program

/-- The character that an escape of one letter stands for. -/
def letterEscape? : Char → Option Char
  | 'a' => some '\u0007'
  | 'b' => some '\u0008'
  | 'e' => some '\u001B'
  | 'f' => some '\u000C'
  | 'n' => some '\n'
  | 'r' => some '\r'
  | 't' => some '\t'
  | 'v' => some '\u000B'
  | '\\' => some '\\'
  | _ => none

/-- Which escapes are known apart from letters and octal numbers. -/
structure Escapes where
  /-- An octal number has three digits, not counting a zero in front. -/
  zeroApart : Bool := false
  /-- Bytes can be written in hexadecimal. -/
  hexadecimal : Bool := false
  /-- Characters can be written by their code points, a quote can be escaped, and
  a hexadecimal number without digits is refused. -/
  characters : Bool := false
  /-- The letter `c` ends all output. -/
  ends : Bool := false
  deriving DecidableEq, Repr

/-- The escapes in a text to be echoed. -/
def Escapes.echoed : Escapes := { zeroApart := true, hexadecimal := true, ends := true }

/-- What an escape stands for. -/
inductive Meaning where
  /-- Text in place of the backslash and so many characters behind it. -/
  | text (length : Nat) (text : Text)
  /-- The end of all output. -/
  | stop
  /-- It is refused. -/
  | refused (why : Text)
  deriving DecidableEq, Repr

/-- The character with a number of so many hexadecimal digits. A number that is
too large for one stays as it is written. -/
def codePoint (digits : Nat) (letter : Char) (rest : Text) : Meaning :=
  let found := (rest.take digits).takeWhile (isDigitOf 16)
  let n := valueOf 16 found
  if found.length < digits then .refused (ofString "missing hexadecimal number in escape")
  else if 0xD800 ≤ n ∧ n ≤ 0xDFFF then
    .refused (ofString "invalid universal character name \\" ++ letter :: found)
  else if 0x10FFFF < n then .text (digits + 1) ('\\' :: letter :: found.map Char.toUpper)
  else .text (digits + 1) (ofBytes (Utf8.encodeChar (Char.ofNat n)))

/-- The meaning of an escape, of which the backslash has been read. -/
def meaning? (known : Escapes) (text : Text) : Option Meaning :=
  match text with
  | [] => none
  | c :: rest =>
      let octal (front : Nat) (text : Text) : Option Meaning :=
        let digits := (text.take 3).takeWhile (isDigitOf 8)
        some (.text (front + digits.length) [Char.ofNat (valueOf 8 digits % 256)])
      match letterEscape? c with
      | some meant => some (.text 1 [meant])
      | none =>
          if isDigitOf 8 c then if known.zeroApart ∧ c = '0' then octal 1 rest else octal 0 text
          else if c = 'c' ∧ known.ends then some .stop
          else if c = '\x22' ∧ known.characters then some (.text 1 [c])
          else if c = 'u' ∧ known.characters then some (codePoint 4 c rest)
          else if c = 'U' ∧ known.characters then some (codePoint 8 c rest)
          else if c = 'x' ∧ known.hexadecimal then
            let digits := (rest.take 2).takeWhile (isDigitOf 16)
            if digits ≠ [] then some (.text (1 + digits.length) [Char.ofNat (valueOf 16 digits)])
            else if known.characters then
              some (.refused (ofString "missing hexadecimal number in escape"))
            else none
          else none

/-- How printing a text came to its end. -/
inductive PrintEnd where
  | complete
  /-- An escape ended all output. -/
  | stopped
  /-- Something could not be printed. -/
  | refused (why : Text)
  deriving DecidableEq, Repr

/-- A text with its escapes carried out, as far as it is printed. So many
characters belong to an escape that is done. -/
def unescaped (known : Escapes) : (done : Nat) → Text → Text × PrintEnd
  | _, [] => ([], .complete)
  | done + 1, _ :: rest => unescaped known done rest
  | 0, '\\' :: rest =>
      match meaning? known rest with
      | some (.text length text) =>
          let (more, ended) := unescaped known length rest
          (text ++ more, ended)
      | some .stop => ([], .stopped)
      | some (.refused why) => ([], .refused why)
      | none =>
          let (more, ended) := unescaped known 0 rest
          ('\\' :: more, ended)
  | 0, c :: rest =>
      let (more, ended) := unescaped known 0 rest
      (c :: more, ended)

end GoldenFiles.Program
