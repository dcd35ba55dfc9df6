import GoldenFiles.Program.Escape

/-!
# Quoting for a shell

A text is written so that a shell reads it back as one word. Most texts stand
for themselves. Others stand between straight quotes, and characters that cannot
be shown are written as escapes between quotes of another kind. Between those
two a quote is closed and opened again. A text with an apostrophe stands
between double quotes, if nothing in it means anything there.
-/

namespace GoldenFiles.Program

/-- What becomes of a character in a quoted text. -/
inductive Quoting where
  /-- It stands for itself, with quotes or without. -/
  | bare
  /-- It stands for itself in quotes, also in double ones. -/
  | inAnyQuotes
  /-- It stands for itself between single quotes. -/
  | inSingleQuotes
  /-- It stands for itself, but not between double quotes. -/
  | bareOrSingle
  | apostrophe
  /-- It is written as an escape. -/
  | escaped (escape : Text)
  deriving DecidableEq, Repr

/-- A byte as an escape. -/
def octalEscape (byte : Char) : Text :=
  let n := byte.toNat
  '\\' :: [n / 64, n / 8 % 8, n % 8].map fun digit => Char.ofNat ('0'.toNat + digit)

/-- Whether a character that is not written in ASCII can be shown. -/
def isShown (c : Char) : Bool :=
  0xA0 ≤ c.toNat && c.toNat ≠ 0x2028 && c.toNat ≠ 0x2029 && c.toNat % 0x10000 < 0xFFFE

/-- What becomes of an ASCII character: `first` if it is the first one of its
text, and `alone` if it is all of it. -/
def asciiQuoting (first alone : Bool) (c : Char) : Quoting :=
  match c with
  | '\u0007' => .escaped ['\\', 'a']
  | '\u0008' => .escaped ['\\', 'b']
  | '\t' => .escaped ['\\', 't']
  | '\n' => .escaped ['\\', 'n']
  | '\u000B' => .escaped ['\\', 'v']
  | '\u000C' => .escaped ['\\', 'f']
  | '\r' => .escaped ['\\', 'r']
  | '\x27' => .apostrophe
  | ' ' => .inAnyQuotes
  | '\x7b' | '\x7d' => if alone then .inAnyQuotes else .bareOrSingle
  | '#' | '~' => if first then .inAnyQuotes else .bareOrSingle
  | _ =>
      if c.toNat < 32 ∨ 126 < c.toNat then .escaped (octalEscape c)
      else if "?\\!\x22$&()*;<=>[^\x60|".toList.contains c then .inSingleQuotes
      else .bare

/-- What becomes of the characters of a text. Bytes that make up a character
stay together; so many belong to one that is done. -/
def quotings (first alone : Bool) : (done : Nat) → Text → List (Text × Quoting)
  | _, [] => []
  | done + 1, _ :: rest => quotings false alone done rest
  | 0, c :: rest =>
      match Utf8.scan (toBytes ((c :: rest).take 4)) with
      | some whole :: _ =>
          let bytes := (c :: rest).take (Utf8.encodeChar whole).length
          let quoting :=
            if whole.toNat < 128 then asciiQuoting first alone whole
            else if isShown whole then .bare
            else .escaped (bytes.flatMap octalEscape)
          (bytes, quoting) :: quotings false alone (bytes.length - 1) rest
      | _ => ([c], .escaped (octalEscape c)) :: quotings false alone 0 rest

/-- A text between single quotes; `escaping` between the quotes for escapes. -/
def singleQuotes (escaping : Bool) : List (Text × Quoting) → Text
  | [] => ['\x27']
  | (_, .escaped escape) :: rest =>
      (if escaping then escape else "'$'".toList ++ escape) ++ singleQuotes true rest
  | (_, .apostrophe) :: rest => "'\\''".toList ++ singleQuotes false rest
  | (text, _) :: rest =>
      (if escaping then ['\x27', '\x27'] else []) ++ text ++ singleQuotes false rest

/-- A text as a shell reads it back. -/
def shellQuoted (text : Text) : Text :=
  let quotings := quotings true (text.length = 1) 0 text
  let plain (q : Quoting) : Bool := q = .bare || q = .bareOrSingle
  let double (q : Quoting) : Bool := q = .bare || q = .inAnyQuotes || q = .apostrophe
  if text ≠ [] ∧ quotings.all (plain ·.2) then text
  else if quotings.any (·.2 = .apostrophe) ∧ quotings.all (double ·.2) then
    '\x22' :: text ++ ['\x22']
  else '\x27' :: singleQuotes false quotings

end GoldenFiles.Program
