import GoldenFiles.Program.Number
import GoldenFiles.Shell.Command

/-!
# Patterns

A pattern matches a whole text. Apart from characters that stand for
themselves it knows one that stands for any character, one for any text, and
sets of characters.
-/

namespace GoldenFiles.Shell

open Program (Text)

/-- A kind of characters. -/
inductive CharClass where
  | alnum
  | alpha
  | blank
  | cntrl
  | digit
  | graph
  | lower
  | print
  | punct
  | space
  | upper
  | xdigit
  deriving DecidableEq, Repr

/-- Whether a character is of a kind. -/
def CharClass.holds (c : Char) : CharClass → Bool
  | alnum => c.isAlphanum
  | alpha => c.isAlpha
  | blank => c = ' ' || c = '\t'
  | cntrl => c.toNat < 32 || c.toNat = 127
  | digit => c.isDigit
  | graph => 32 < c.toNat && c.toNat < 127
  | lower => c.isLower
  | print => 32 ≤ c.toNat && c.toNat < 127
  | punct => 32 < c.toNat && c.toNat < 127 && !c.isAlphanum
  | space => Program.isSpace c
  | upper => c.isUpper
  | xdigit => Program.isDigitOf 16 c

/-- The kinds of characters and their names. -/
def CharClass.names : List (String × CharClass) :=
  [("alnum", .alnum), ("alpha", .alpha), ("blank", .blank), ("cntrl", .cntrl), ("digit", .digit),
    ("graph", .graph), ("lower", .lower), ("print", .print), ("punct", .punct), ("space", .space),
    ("upper", .upper), ("xdigit", .xdigit)]

/-- What a set of characters is made of. -/
inductive Member where
  | range (low high : Char)
  | of (kind : CharClass)
  deriving DecidableEq, Repr

/-- Whether a character is in a part of a set. -/
def Member.holds (c : Char) : Member → Bool
  | range low high => low ≤ c && c ≤ high
  | of kind => kind.holds c

/-- A part of a pattern. -/
inductive Match where
  | exactly (c : Char)
  | anyChar
  | anyText
  | oneOf (negated : Bool) (members : List Member)
  deriving DecidableEq, Repr

/-- A pattern. -/
abbrev Pattern := List Match

/-- A character of an expanded word, and whether it was quoted. -/
abbrev Marked := Char × Bool

/-- The kind of characters that is named behind an opening bracket, and how many
characters its name takes. -/
def charClass? (text : List Marked) : Option (CharClass × Nat) :=
  CharClass.names.findSome? fun (name, kind) =>
    let written := ':' :: name.toList ++ [':', ']']
    if (written.map (·, false)).isPrefixOf text then some (kind, written.length) else none

/-- The set that begins here: how many characters it takes, its closing bracket
included, and its parts. So many characters belong to a part that is done. -/
def members (first : Bool) : (done : Nat) → List Marked → Option (Nat × List Member)
  | _, [] => none
  | done + 1, _ :: rest => (members first done rest).map fun (length, more) => (length + 1, more)
  | 0, (c, quoted) :: rest =>
      if c = ']' ∧ !quoted ∧ !first then some (1, [])
      else
        let single (done : Nat) (member : Member) : Option (Nat × List Member) :=
          (members false done rest).map fun (length, more) => (length + 1, member :: more)
        match (if c = '[' ∧ !quoted then charClass? rest else none), rest with
        | some (kind, length), _ => single length (.of kind)
        | none, ('-', false) :: (high, highQuoted) :: _ =>
            if high = ']' ∧ !highQuoted then single 0 (.range c c) else single 2 (.range c high)
        | none, _ => single 0 (.range c c)

/-- The pattern that an expanded word is. So many characters belong to a set
that is done. -/
def patternFrom : (done : Nat) → List Marked → Pattern
  | _, [] => []
  | done + 1, _ :: rest => patternFrom done rest
  | 0, ('*', false) :: rest => .anyText :: patternFrom 0 rest
  | 0, ('?', false) :: rest => .anyChar :: patternFrom 0 rest
  | 0, ('\\', false) :: (c, _) :: rest => .exactly c :: patternFrom 0 rest
  | 0, ('[', false) :: rest =>
      let negated := match rest with
        | ('!', false) :: _ => true
        | _ => false
      match members true 0 (if negated then rest.tail else rest) with
      | some (length, found) =>
          .oneOf negated found :: patternFrom (length + if negated then 1 else 0) rest
      | none => .exactly '[' :: patternFrom 0 rest
  | 0, (c, _) :: rest => .exactly c :: patternFrom 0 rest

/-- The pattern that an expanded word is. -/
def Pattern.ofMarked (text : List Marked) : Pattern := patternFrom 0 text

namespace Pattern

/-- Whether a part of a pattern stands for a character. -/
def takes (c : Char) : Match → Bool
  | .exactly d => c = d
  | .anyChar => true
  | .anyText => false
  | .oneOf negated found => found.any (Member.holds c) != negated

/-- Whether a pattern matches a text. -/
def covers : Pattern → Text → Bool
  | [], text => text.isEmpty
  | .anyText :: pattern, [] => covers pattern []
  | .anyText :: pattern, c :: text =>
      covers pattern (c :: text) || covers (.anyText :: pattern) text
  | _ :: _, [] => false
  | part :: pattern, c :: text => takes c part && covers pattern text
termination_by pattern text => pattern.length + text.length

/-- Whether a pattern can match more than one text. -/
def isActive (pattern : Pattern) : Bool :=
  pattern.any fun
    | .exactly _ => false
    | _ => true

/-- A value without the end that a pattern matches. -/
def trim (how : Trim) (pattern : Pattern) (value : Text) : Text :=
  let lengths := List.range (value.length + 1)
  match how with
  | .shortestPrefix =>
      ((lengths.find? fun n => pattern.covers (value.take n)).map value.drop).getD value
  | .longestPrefix =>
      ((lengths.reverse.find? fun n => pattern.covers (value.take n)).map value.drop).getD value
  | .shortestSuffix =>
      ((lengths.reverse.find? fun n => pattern.covers (value.drop n)).map value.take).getD value
  | .longestSuffix =>
      ((lengths.find? fun n => pattern.covers (value.drop n)).map value.take).getD value

/-- Whether a pattern matches an end of a text. -/
def fitsEnd (pattern : Pattern) : Text → Bool
  | [] => pattern.covers []
  | c :: text => pattern.covers (c :: text) || fitsEnd pattern text

/-- Values one behind the other without the end that a pattern matches. A prefix
is one of the first value; if that is matched as a whole by the longest prefix, all
of them are. A suffix is one of the last value that has one, or, if it is the longest,
of the first value, and nothing behind it is left. -/
def trimRow (how : Trim) (pattern : Pattern) (values : List Text) : List Text :=
  match how, values with
  | _, [] => [pattern.trim how []]
  | .shortestPrefix, value :: values => pattern.trim how value :: values
  | .longestPrefix, value :: values =>
      if pattern.covers value then [[]] else pattern.trim how value :: values
  | .longestSuffix, value :: values =>
      if pattern.fitsEnd value then [pattern.trim how value] else value :: values
  | .shortestSuffix, values =>
      match values.reverse.dropWhile fun value => !pattern.fitsEnd value with
      | [] => values
      | value :: before => (pattern.trim how value :: before).reverse

end Pattern

end GoldenFiles.Shell
