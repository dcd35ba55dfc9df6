import GoldenFiles.Program.Quoting
import GoldenFiles.Sorting

/-!
# Small programs

The programs that a test is likely to be written with take their arguments and a
process and answer with an exit status. What one of them does not know it refuses
the way such programs do, with a line on the error stream.

Here is what they have in common: how they read their options, and how they say
that something went wrong.
-/

namespace GoldenFiles.Program

/-- A program that runs to its end without starting others. -/
abbrev Utility := List Text → Process → Nat × Process

/-- A line on the error stream, with the name of who writes it in front. -/
def Process.complain (p : Process) (name : String) (text : Text) : Process :=
  p.tell 2 (ofString name ++ [':', ' '] ++ text ++ ['\n'])

/-- A name between typographic quotes. -/
def quoted (name : Text) : Text := ofString "‘" ++ name ++ ofString "’"

/-- A name between straight quotes. -/
def singleQuoted (name : Text) : Text := ['\x27'] ++ name ++ ['\x27']

/-- A name as it is shown in front of what is wrong with it. -/
def shownName (name : Text) : Text :=
  let shown := shellQuoted name
  if shown = name ∧ name.contains ':' then singleQuoted name else shown

/-- Words with a space between every two of them. -/
def spaced (words : List Text) : Text := Separated.join ' ' words

namespace Utility

/-- Does something with each argument and remembers whether one failed. -/
def each (act : Text → Process → Bool × Process) : Utility
  | [], p => (0, p)
  | argument :: arguments, p =>
      let (done, p) := act argument p
      let (status, p) := each act arguments p
      (if done then status else 1, p)

/-- Prints a text and ends with a status, or says why that could not be done. -/
def printing (name : String) (status : Nat) (text : Text) (p : Process) : Nat × Process :=
  if text = [] then (status, p)
  else
    match p.write 1 text with
    | .ok p => (status, p)
    | .error e => (1, p.complain name (ofString ("write error: " ++ e.message)))

/-- Where a program tells more about itself. -/
def hint (name : String) (p : Process) : Process :=
  p.tell 2 (ofString ("Try '" ++ name ++ " --help' for more information.\n"))

/-- The options that a program knows. -/
structure Options where
  /-- The letters. -/
  letters : String
  /-- Words that stand for letters. -/
  words : List (String × String) := []

/-- What options are given: their letters, and the other arguments. An argument
that names no option, or more than one, is refused. Options may stand behind
other arguments, up to two dashes. -/
def Options.read (known : Options) : List Text → Except Text (Text × List Text)
  | [] => .ok ([], [])
  | ['-', '-'] :: arguments => .ok ([], arguments)
  | ('-' :: '-' :: word) :: arguments => do
      let fitting := known.words.filter fun (long, _) => word.isPrefixOf long.toList
      let exact := known.words.filter fun (long, _) => word = long.toList
      let meant := (if exact = [] then fitting else exact).map Prod.snd
      match meant with
      | letters :: others =>
          if others.all (· = letters) then
            let (more, rest) ← known.read arguments
            return (letters.toList ++ more, rest)
          else .error (ofString "option '--" ++ word ++ ofString "' is ambiguous")
      | [] => .error (ofString "unrecognized option '--" ++ word ++ ['\x27'])
  | ('-' :: c :: letters) :: arguments =>
      match (c :: letters).find? fun c => !known.letters.toList.contains c with
      | some c => .error (ofString "invalid option -- '" ++ [c, '\x27'])
      | none => do
          let (more, rest) ← known.read arguments
          return (c :: letters ++ more, rest)
  | argument :: arguments => do
      let (more, rest) ← known.read arguments
      return (more, argument :: rest)

/-- A program with options. -/
def Options.program (known : Options) (name : String) (run : Text → Utility) : Utility :=
  fun arguments p =>
    match known.read arguments with
    | .error why => (1, hint name (p.complain name why))
    | .ok (letters, arguments) => run letters arguments p

end Utility

end GoldenFiles.Program
