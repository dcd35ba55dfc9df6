/-!
# JSON documents

A document is a tree of objects, lists, strings and numbers, and it is written
in one of two layouts: on one line without blanks, or with every member on a
line of its own, two blanks deeper than what holds it. An empty list or object
is two brackets in either. In a string the quote, the backslash and the control
characters below a blank are escaped and nothing else is, so a text in any
script stays readable.
-/

namespace GoldenFiles

/-- A JSON value. Numbers are the text they are written as. -/
inductive Json where
  | null
  | number (literal : String)
  | string (text : String)
  | array (items : List Json)
  | object (members : List (String × Json))
  deriving Repr

namespace Json

/-- A whole number. -/
def ofNat (n : Nat) : Json := number (toString n)

/-- An integer. -/
def ofInt (n : Int) : Json := number (toString n)

/-- The escape of a character in a string. -/
def escapeChar (c : Char) : List Char :=
  match c with
  | '\x22' => ['\\', '\x22']
  | '\\' => ['\\', '\\']
  | '\x08' => ['\\', 'b']
  | '\x0c' => ['\\', 'f']
  | '\n' => ['\\', 'n']
  | '\r' => ['\\', 'r']
  | '\t' => ['\\', 't']
  | c =>
      if c.toNat < 0x20 then
        ['\\', 'u', '0', '0', Nat.digitChar (c.toNat / 16), Nat.digitChar (c.toNat % 16)]
      else [c]

/-- A string between quotes. -/
def quote (text : String) : String :=
  String.ofList ('\x22' :: text.toList.flatMap escapeChar ++ ['\x22'])

/-- The start of a line at a depth. -/
def newline (depth : Nat) : String :=
  String.ofList ('\n' :: List.replicate (2 * depth) ' ')

mutual

/-- A value on one line. -/
def compact : Json → String
  | null => "null"
  | number literal => literal
  | string text => quote text
  | array items => "[" ++ ",".intercalate (compactItems items) ++ "]"
  | object members => "\x7b" ++ ",".intercalate (compactMembers members) ++ "\x7d"

/-- The items of a list, each on one line. -/
def compactItems : List Json → List String
  | [] => []
  | item :: items => compact item :: compactItems items

/-- The members of an object, each on one line. -/
def compactMembers : List (String × Json) → List String
  | [] => []
  | (key, value) :: members => (quote key ++ ":" ++ compact value) :: compactMembers members

end

/-- Brackets around parts that stand on lines of their own. -/
def block (depth : Nat) (opening closing : String) (parts : List String) : String :=
  if parts.isEmpty then opening ++ closing
  else
    let start := newline (depth + 1)
    opening ++ start ++ ("," ++ start).intercalate parts ++ newline depth ++ closing

mutual

/-- A value over several lines, its own first line aside at a depth. -/
def prettyAt (depth : Nat) : Json → String
  | null => "null"
  | number literal => literal
  | string text => quote text
  | array items => block depth "[" "]" (prettyItems (depth + 1) items)
  | object members => block depth "\x7b" "\x7d" (prettyMembers (depth + 1) members)

/-- The items of a list, each over several lines. -/
def prettyItems (depth : Nat) : List Json → List String
  | [] => []
  | item :: items => prettyAt depth item :: prettyItems depth items

/-- The members of an object, each over several lines. -/
def prettyMembers (depth : Nat) : List (String × Json) → List String
  | [] => []
  | (key, value) :: members =>
      (quote key ++ ": " ++ prettyAt depth value) :: prettyMembers depth members

end

/-- A document over several lines. -/
def pretty (document : Json) : String := prettyAt 0 document

end Json

end GoldenFiles
