import GoldenFiles.Shell.Command
import GoldenFiles.Text.Digits

/-!
# Words and signs of scripts

What a script is made of on the lowest level: blanks, plain words, signs and
names. Reading gives what was read and what is left of the script, or a mistake,
which knows what was left there, and so on which line it is.
-/

namespace GoldenFiles.Shell

open Program (Text ofString)

/-! ## Characters and blanks -/

/-- Whether a character ends a word. -/
def endsWord (c : Char) : Bool := c ∈ [' ', '\t', '\n', ';', '&', '|', '<', '>', '(', ')']

/-- Whether a character may begin a name. -/
def beginsName (c : Char) : Bool := c.isAlpha || c = '_'

/-- Whether a character may stand in a name. -/
def isNameChar (c : Char) : Bool := c.isAlphanum || c = '_'

/-- Whether a text can be the name of a variable or a function. -/
def isName (text : Text) : Bool := text.head?.any beginsName && text.all isNameChar

/-- Whether a character names a parameter of the shell. -/
def isSpecial (c : Char) : Bool := c ∈ ['@', '*', '#', '?', '-', '$', '!']

/-- Skips ends of lines that join the line to the next one. -/
def skipJoins : Text → Text
  | '\\' :: '\n' :: rest => skipJoins rest
  | text => text

/-- Text without the joined lines between the signs that it begins with. -/
def joinedSigns : Text → Text
  | '\\' :: '\n' :: rest => joinedSigns rest
  | c :: rest => if c ∈ ['&', '|', ';', '<', '>'] then c :: joinedSigns rest else c :: rest
  | [] => []

/-- Skips blanks, joined lines and comments. -/
def skipBlanks : Text → Text
  | ' ' :: rest | '\t' :: rest => skipBlanks rest
  | '\\' :: '\n' :: rest => skipBlanks rest
  | '#' :: rest => rest.dropWhile (· ≠ '\n')
  | text => joinedSigns text

/-- Skips blanks, comments and ends of lines. -/
def skipLines : (comment : Bool) → Text → Text
  | _, [] => []
  | _, '\n' :: rest => skipLines false rest
  | true, _ :: rest => skipLines true rest
  | false, ' ' :: rest | false, '\t' :: rest => skipLines false rest
  | false, '\\' :: '\n' :: rest => skipLines false rest
  | false, '#' :: rest => skipLines true rest
  | false, text => text

/-- The characters of a kind that a text begins with, and what follows them. Joined
lines do not count. -/
def leading (kind : Char → Bool) : Text → Text × Text
  | [] => ([], [])
  | '\\' :: '\n' :: rest => leading kind rest
  | c :: rest =>
      if kind c then
        let (found, rest) := leading kind rest
        (c :: found, rest)
      else ([], c :: rest)

/-- The word that comes next, if it is a plain one, and what follows it. -/
def plainWord (text : Text) : Text × Text :=
  leading (fun c => !endsWord c && c ∉ ['\x27', '\x22', '\\', '$', '\x60']) text

/-- What follows a word that has to come next. -/
def after? (word : String) (text : Text) : Option Text :=
  let (found, rest) := plainWord text
  if found = word.toList ∧ rest.head?.all endsWord then some rest else none

/-- A word with text in front. -/
def addText (quoted : Bool) (text : Text) : Word → Word
  | .text other more :: word =>
      if quoted = other ∧ text ≠ [] then .text quoted (text ++ more) :: word
      else .text quoted text :: .text other more :: word
  | word => .text quoted text :: word

/-- Whether a part of a word is quoted text. -/
def isQuotedText : Part → Bool
  | .text quoted _ => quoted
  | _ => false

/-- Whether a word in quotes is nothing but all the arguments. Only then there can be
no field at all where quotes are. -/
def isAllArguments : Word → Bool
  | [.parameter _ ['@'] .value] => true
  | _ => false

/-- The text of a word that stands for itself. -/
def literal? : Word → Option Text
  | [] => some []
  | .text _ text :: word => (literal? word).map (text ++ ·)
  | _ => none

/-- Undoes the escapes of a text between backquotes, up to the closing one. In
quotes, a quote is escaped as well. -/
def backquoted (quoted : Bool) : Text → Option (Text × Text)
  | [] => none
  | '\x60' :: rest => some ([], rest)
  | '\\' :: c :: rest =>
      (backquoted quoted rest).map fun (text, rest) =>
        let escaped := c = '\x60' ∨ c = '\\' ∨ c = '$' ∨ quoted ∧ c = '\x22'
        ((if escaped then [c] else ['\\', c]) ++ text, rest)
  | c :: rest => (backquoted quoted rest).map fun (text, rest) => (c :: text, rest)

/-- A line with all the lines that are joined to it, and the lines behind it, if
there are any. -/
def logicalLine : Text → Text × Option Text
  | [] => ([], none)
  | '\n' :: rest => ([], some rest)
  | '\\' :: c :: rest =>
      let (line, rest) := logicalLine rest
      ('\\' :: c :: line, rest)
  | c :: rest =>
      let (line, rest) := logicalLine rest
      (c :: line, rest)

/-- The lines up to a closing one, and what follows that. Tabs in front of the lines
are dropped if asked; a line goes on behind its end if that joins it to the next
one, if asked. -/
def linesUpTo (closing : Text) (dropTabs joins : Bool) : (fuel : Nat) → Text → Text × Text
  | 0, text => (text, [])
  | fuel + 1, text =>
      let (line, rest) :=
        if joins then logicalLine text
        else
          let line := text.takeWhile (· ≠ '\n')
          (line, if line.length < text.length then some (text.drop (line.length + 1)) else none)
      let line := if dropTabs then line.dropWhile (· = '\t') else line
      if line = closing then ([], rest.getD [])
      else
        match rest with
        | none => (line, [])
        | some rest =>
            let (body, rest) := linesUpTo closing dropTabs joins fuel rest
            (line ++ '\n' :: body, rest)

/-- The lines below a command up to a closing one with all that comes after, and the
text without them, which has as many joined lines in their places, so that lines can
be counted. -/
def linesBelow (closing : Text) (dropTabs joins : Bool) (text : Text) : Text × Text × Text :=
  let (front, below) := logicalLine text
  let below := below.getD []
  let (body, rest) := linesUpTo closing dropTabs joins (below.length + 1) below
  let marks := List.replicate (below.count '\n' - rest.count '\n') [' ', '\\', '\n']
  (body, below, front ++ marks.flatten ++ '\n' :: rest)

/-- The operators of redirections, longer ones first. -/
def directions : List (String × Direction × Bool) :=
  [("<<-", .below, true), ("<<", .below, false), ("<&", .duplicate, false),
    ("<>", .update, false), ("<", .read, false), (">>", .append, false),
    (">&", .duplicate, false), (">|", .overwrite, false), (">", .write, false)]

/-- The operator of a redirection, if one comes next, with its descriptor, which
is a digit. -/
def redirection? (text : Text) : Option (Nat × Direction × Bool × Text) :=
  let (digits, rest) := leading Char.isDigit text
  let rest := joinedSigns rest
  if 1 < digits.length then none
  else
    (directions.find? fun (word, _) => word.toList.isPrefixOf rest).map
      fun (word, direction, dropTabs) =>
        let usual := if rest.head? = some '<' then 0 else 1
        (match digits with
          | c :: _ => Digits.worth c
          | [] => usual,
          direction, dropTabs, rest.drop word.length)

/-- What a simple command is made of so far. -/
structure Draft where
  /-- The line on which its first word ends. -/
  line : Option Nat := none
  assignments : List (Text × Word) := []
  words : List Word := []
  redirections : List Redirection := []

/-- How a parameter may be used: the operator, and whether it is about values. -/
inductive Operator where
  | choice (make : Bool → Word → Use)
  | trim (how : Trim)

/-- The operator behind the name of a parameter. -/
def operator? : Text → Option (Operator × Bool × Text)
  | ':' :: rest =>
      match skipJoins rest with
      | c :: rest => (valueOperator? c).map fun make => (.choice make, true, rest)
      | [] => none
  | '#' :: rest =>
      match skipJoins rest with
      | '#' :: rest => some (.trim .longestPrefix, false, rest)
      | rest => some (.trim .shortestPrefix, false, rest)
  | '%' :: rest =>
      match skipJoins rest with
      | '%' :: rest => some (.trim .longestSuffix, false, rest)
      | rest => some (.trim .shortestSuffix, false, rest)
  | c :: rest => (valueOperator? c).map fun make => (.choice make, false, rest)
  | [] => none
where
  /-- The operator for what happens if there is a value or none. -/
  valueOperator? : Char → Option (Bool → Word → Use)
    | '-' => some .default
    | '=' => some .assign
    | '+' => some .alternative
    | '?' => some .insist
    | _ => none

/-- The name of a parameter. -/
def parameterName? : Text → Option (Text × Text)
  | [] => none
  | c :: rest =>
      if beginsName c then some (leading isNameChar (c :: rest))
      else if c.isDigit ∨ isSpecial c then some ([c], rest)
      else none

/-- The name of a parameter in braces, which may be a number of several digits. -/
def bracedName? (text : Text) : Option (Text × Text) :=
  match leading Char.isDigit text with
  | ([], text) => (parameterName? text).map fun (name, rest) => (name, skipJoins rest)
  | found => some found

/-- The name of the parameter of which the length is asked for, behind the sign for
that. A name that only the closing brace follows is one even if there is no such
parameter; with anything else behind it, the sign is a name itself. -/
def lengthName? (text : Text) : Option (Text × Text) :=
  match text with
  | '#' :: rest =>
      match skipJoins rest with
      | [] => none
      | c :: rest =>
          if isNameChar c then bracedName? (c :: rest)
          else if c ≠ '\x7d' ∧ (skipJoins rest).head? = some '\x7d' then some ([c], skipJoins rest)
          else none
  | _ => none

/-- The name of a variable that is given a value here, and what follows the
equals sign. -/
def assignment? (text : Text) : Option (Text × Text) :=
  match leading isNameChar text with
  | (c :: name, '=' :: rest) => if beginsName c then some (c :: name, rest) else none
  | _ => none

/-! ## Homes -/

/-- Text with the tilde that it begins with replaced by a home. Up to a slash, or
a colon if there are several paths, it names a user; that has to end before other
parts of the word begin. -/
def homeParts (several isLast : Bool) (text : Text) : Word :=
  match text with
  | '~' :: rest =>
      let user := rest.takeWhile fun c => c ≠ '/' && !(several && c = ':')
      let after := rest.drop user.length
      if after = [] then if isLast then [.home user] else [.text false text]
      else [.home user, .text false after]
  | _ => if text = [] then [] else [.text false text]

/-- A word with the tilde that it begins with replaced by a home. -/
def withHome : Word → Word
  | .text false text :: word => homeParts false word.isEmpty text ++ word
  | word => word

/-- Replaces tildes in pieces of a text, all but the first of which follow a
colon. -/
def homesInPieces (isLast : Bool) : List Text → Word
  | [] => []
  | [piece] => homeParts true isLast piece
  | piece :: pieces =>
      homeParts true true piece ++ .text false [':'] :: homesInPieces isLast pieces

/-- A word that is a row of paths, with tildes replaced by homes: behind colons,
and at its beginning, if it is the first word there. -/
def withHomes (first : Bool) : Word → Word
  | [] => []
  | .text false text :: word =>
      let found := match first, Separated.split ':' text with
        | true, pieces => homesInPieces word.isEmpty pieces
        | false, piece :: next :: more =>
            .text false (piece ++ [':']) :: homesInPieces word.isEmpty (next :: more)
        | false, _ => [.text false text]
      found ++ withHomes false word
  | part :: word => part :: withHomes false word

/-- A word that is a name and a value, with tildes in the value replaced; none, if
it is another word. -/
def assignmentWord? : Word → Option Word
  | .text false text :: word =>
      (assignment? text).map fun (name, value) =>
        .text false (name ++ ['=']) :: withHomes true (.text false value :: word)
  | _ => none

/-! ## Mistakes -/

/-- What is wrong with a script, and what was left of it there. -/
structure Mistake where
  text : Text
  rest : Text
  /-- The line it is on, if it is on a line of another text, which is a part of the
  script. -/
  line : Option Nat := none
  deriving DecidableEq, Repr

/-- A word in quotes, as mistakes show it. -/
def shown (word : String) : String := "\x22" ++ word ++ "\x22"

/-- The signs between commands, longer ones first. -/
def signs : List String := [";;", "&&", "||", ";", "&", "|", "(", ")"]

/-- How many characters the sign has that comes next. -/
def signLength (text : Text) : Nat :=
  ((signs.find? (·.toList.isPrefixOf text)).map String.length).getD 1

/-- The words that commands are built with. -/
def reservedWords : List String :=
  ["if", "then", "elif", "else", "fi", "while", "until", "for", "in", "do", "done", "case", "esac",
    "!", "\x7b", "\x7d"]

/-- The words that end a list of commands. -/
def closers : List String := ["then", "do", "done", "fi", "else", "elif", "esac", "\x7d"]

/-- The script that is read. -/
structure Source where
  /-- How many lines it has. -/
  lines : Nat
  /-- Words and the texts that are read in their places. -/
  aliases : List (Text × Text) := []

/-- The line that a text begins on, which is what is left of the script. -/
def Source.lineOf (source : Source) (text : Text) : Nat := source.lines + 1 - text.count '\n'

/-- The text of a command with its first word replaced, if that is an alias, and
the next one as well, if a blank ends the text in its place. Inside the text for
an alias the word is not replaced again. -/
def Source.unaliased (source : Source) : (fuel : Nat) → (used : List Text) → Text → Text
  | 0, _, text => text
  | fuel + 1, used, text =>
      let (word, rest) := plainWord text
      if reservedWords.any (·.toList = word) ∨ !rest.head?.all endsWord ∨ used.contains word then
        text
      else
        match source.aliases.lookup word with
        | none => text
        | some value =>
            let value := source.unaliased fuel (word :: used) (skipBlanks value)
            if value.getLast?.any fun c => c = ' ' || c = '\t' then
              value ++ source.unaliased fuel used (skipBlanks rest)
            else skipBlanks (value ++ rest)

/-- A text that is a part of the script and begins on a line of it. -/
def Source.within (source : Source) (line : Nat) (text : Text) : Source :=
  { source with lines := line + text.count '\n' - 1 }

/-- Whether a list of commands ends here. -/
def atCloser (text : Text) : Bool :=
  match text with
  | [] | ')' :: _ | ';' :: ';' :: _ => true
  | _ => closers.any fun word => (after? word text).isSome

/-- What comes next, as mistakes name it, where a command can be or not. -/
def nameOfNext (isCommand : Bool) (text : Text) : String :=
  match text with
  | [] => "end of file"
  | '\n' :: _ => "newline"
  | _ =>
      match signs.find? (·.toList.isPrefixOf text), redirection? text with
      | some sign, _ => shown sign
      | none, some _ => "redirection"
      | none, none =>
          match reservedWords.find? fun word => isCommand && (after? word text).isSome with
          | some word => shown word
          | none => "word"

namespace Mistake

/-- The script is not put together as scripts are. -/
def syntactic (why : String) (rest : Text) : Mistake :=
  { text := ofString ("Syntax error: " ++ why), rest := rest }

/-- Something comes next that cannot stand here, where something else may be the
only thing that can. Where no command can be, all words are alike. -/
def unexpectedAt (isCommand : Bool) (expecting : Option String) (text : Text) : Mistake :=
  let text := skipBlanks text
  let wanted := match expecting with
    | some word => " (expecting " ++ word ++ ")"
    | none => ""
  let rest := if text.head? = some '\n' then text.tail else text
  syntactic (nameOfNext isCommand text ++ " unexpected" ++ wanted) rest

/-- Something comes next that cannot stand where a command can. -/
def unexpected (expecting : Option String) (text : Text) : Mistake :=
  unexpectedAt true expecting text

/-- The script ends inside quotes. -/
def openQuote : Mistake := syntactic "Unterminated quoted string" []

/-- The script ends, or nothing fits, before a closing brace. -/
def openBrace (rest : Text) : Mistake := syntactic "Missing '\x7d'" rest

/-- The script ends inside an arithmetic expression. -/
def openArithmetic : Mistake := syntactic "Missing '))'" []

/-- The script ends between backquotes. -/
def openBackquote : Mistake := syntactic "EOF in backquote substitution" []

end Mistake

/-- Reads a word that has to come next. -/
def expectWord (word : String) (text : Text) : Except Mistake Text :=
  match after? word text with
  | some rest => .ok rest
  | none => .error (.unexpected (some (shown word)) text)

/-- Reads a closing parenthesis that has to come next. -/
def expectClosing (text : Text) : Except Mistake Text :=
  match skipBlanks text with
  | ')' :: rest => .ok rest
  | rest => .error (.unexpected (some (shown ")")) rest)

/-- Reads a closing parenthesis that has to come next where no command can be. -/
def expectClosingWord (text : Text) : Except Mistake Text :=
  match skipBlanks text with
  | ')' :: rest => .ok rest
  | rest => .error (.unexpectedAt false (some (shown ")")) rest)

end GoldenFiles.Shell
