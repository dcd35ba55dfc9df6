import GoldenFiles.Text.Digits
import GoldenFiles.Yaml.Folding

/-!
# Quoted scalars

Both kinds of quotes are read one character at a time. What has been read is a
state: the white space since the last other character, or an escape that has
begun. White space is held back until it is known what follows it, because it
is folded as a whole. A line that looks like a document mark is refused inside
quotes, and so is the end of the text.
-/

namespace GoldenFiles.Yaml

/-- White space in a quoted scalar. -/
structure Gap where
  run : List Char := []
  /-- Whether a backslash at the end of a line comes before it. -/
  joined : Bool := false
  deriving DecidableEq, Repr

namespace Gap

/-- What a gap stands for. Where a backslash joins two lines their blanks are
dropped, and only further breaks count. -/
def text (gap : Gap) : List Char :=
  if gap.joined then gap.run.filter isBreak else folded gap.run

/-- A gap with one more character. -/
def push (gap : Gap) (c : Char) : Gap := { gap with run := gap.run ++ [c] }

end Gap

/-- The character that an escape of one letter stands for. -/
def escape? : Char → Option Char
  | '0' => some '\u0000'
  | 'a' => some '\u0007'
  | 'b' => some '\u0008'
  | 't' => some '\t'
  | '\t' => some '\t'
  | 'n' => some '\n'
  | 'v' => some '\u000B'
  | 'f' => some '\u000C'
  | 'r' => some '\r'
  | 'e' => some '\u001B'
  | ' ' => some ' '
  | '\x22' => some '\x22'
  | '/' => some '/'
  | '\\' => some '\\'
  | 'N' => some '\u0085'
  | '_' => some '\u00A0'
  | 'L' => some '\u2028'
  | 'P' => some '\u2029'
  | _ => none

/-- The number of digits after an escape that gives a character by its number. -/
def escapeDigits? : Char → Option Nat
  | 'x' => some 2
  | 'u' => some 4
  | 'U' => some 8
  | _ => none

/-- The character with a number. -/
def charOfNat? (n : Nat) : Option Char := if n.isValidChar then some (Char.ofNat n) else none

/-- What a double-quoted scalar is in the middle of. -/
inductive Reading where
  | text (gap : Gap)
  /-- A backslash has been read. -/
  | escape
  /-- So many digits are missing from a number. -/
  | digits (missing value : Nat)
  deriving DecidableEq, Repr

/-- A text in front of what is read next. -/
def prepend (front : List Char) : List Char × Source → List Char × Source
  | (text, rest) => (front ++ text, rest)

/-- The rest of a double-quoted scalar, and what follows it. -/
def doubleQuoted : Reading → Source → Option (List Char × Source)
  | _, [] => none
  | .text gap, c :: rest =>
      if Source.atDocumentMark (c :: rest) then none
      else if isWhite c.char then doubleQuoted (.text (gap.push c.char)) rest
      else if c.char = '\x22' then some (gap.text, rest)
      else if c.char = '\\' then (doubleQuoted .escape rest).map (prepend gap.text)
      else (doubleQuoted (.text {}) rest).map (prepend (gap.text ++ [c.char]))
  | .escape, c :: rest =>
      if isBreak c.char then doubleQuoted (.text { joined := true }) rest
      else
        match escape? c.char, escapeDigits? c.char with
        | some meant, _ => (doubleQuoted (.text {}) rest).map (prepend [meant])
        | none, some count => doubleQuoted (.digits count 0) rest
        | none, none => none
  | .digits missing value, c :: rest =>
      match hexDigit? c.char with
      | none => none
      | some digit =>
          let value := value * 16 + digit
          if 1 < missing then doubleQuoted (.digits (missing - 1) value) rest
          else
            match charOfNat? value with
            | none => none
            | some meant => (doubleQuoted (.text {}) rest).map (prepend [meant])

/-- The rest of a single-quoted scalar, in which only a quote written twice
stands for something else, and what follows it. -/
def singleQuoted (gap : Gap) : Source → Option (List Char × Source)
  | [] => none
  | c :: rest =>
      if Source.atDocumentMark (c :: rest) then none
      else if isWhite c.char then singleQuoted (gap.push c.char) rest
      else if c.char ≠ '\x27' then
        (singleQuoted {} rest).map (prepend (gap.text ++ [c.char]))
      else
        match rest with
        | [] => some (gap.text, [])
        | d :: left =>
            if d.char = '\x27' then (singleQuoted {} left).map (prepend (gap.text ++ ['\x27']))
            else some (gap.text, d :: left)

end GoldenFiles.Yaml
