import GoldenFiles.Shell.State
import GoldenFiles.Shell.Token

/-!
# Commands that the shell carries out itself

They change the shell, or they are so common that starting a program for them
would be a waste. A mistake in one of them ends the shell, unless the command is
one that might as well be a program: whoever runs it knows which it is.

Here is what they have in common: how they read their options and numbers, and
how they write values so that a shell can read them back.
-/

namespace GoldenFiles.Shell

open Program (Text ofString)

/-- A command that the shell carries out itself. -/
abbrev Builtin := List Text → State → State

/-- What the options of a command are: letters, each with an argument if it takes
one. -/
abbrev Given := List (Char × Text)

/-- Reads the letters of an argument; those that take an argument of their own are
followed by a colon in what is known. -/
def letterOptions (known : Text) : Text → List Text → Except Text (Given × List Text)
  | [], rest => .ok ([], rest)
  | c :: letters, rest =>
      match known.dropWhile (· ≠ c) with
      | [] => .error (ofString "Illegal option -" ++ [c])
      | _ :: ':' :: _ =>
          match letters, rest with
          | _ :: _, _ => .ok ([(c, letters)], rest)
          | [], argument :: rest => .ok ([(c, argument)], rest)
          | [], [] => .error (ofString "No arg for -" ++ c :: ofString " option")
      | _ => do
          let (more, rest) ← letterOptions known letters rest
          return ((c, []) :: more, rest)

/-- Reads the options in front of arguments, up to two dashes; at most `fuel` of
them. -/
def optionsFrom (known : Text) : (fuel : Nat) → List Text → Except Text (Given × List Text)
  | 0, arguments => .ok ([], arguments)
  | _, ['-', '-'] :: rest => .ok ([], rest)
  | fuel + 1, ('-' :: c :: letters) :: rest => do
      let (found, rest) ← letterOptions known (c :: letters) rest
      let (more, rest) ← optionsFrom known fuel rest
      return (found ++ more, rest)
  | _, arguments => .ok ([], arguments)

/-- A command with options. -/
def withOptions (known : String) (act : Given → Builtin) : Builtin := fun arguments s =>
  match optionsFrom known.toList (arguments.length + 1) arguments with
  | .ok (given, arguments) => act given arguments s
  | .error why => s.giveUp why

/-- Whether an option is given. -/
def Given.has (given : Given) (c : Char) : Bool := given.any (·.1 = c)

/-- Does something with a number, which is `usual` where none is given. -/
def withCount (usual : State → Nat) (act : Nat → State → State) : Builtin :=
  fun arguments s =>
    match arguments with
    | [] => act (usual s) s
    | text :: _ =>
        match State.count? text with
        | some n => act n s
        | none => s.giveUp (State.illegalNumber text)

/-- A text in quotes, from which a shell reads it back. Apostrophes stand between
double quotes, all else between single ones. -/
def reusable (text : Text) : Text :=
  let rec pieces : (fuel : Nat) → Text → Text
    | 0, _ => []
    | fuel + 1, text =>
        let plain := text.takeWhile (· ≠ '\x27')
        let rest := text.drop plain.length
        let apostrophes := rest.takeWhile (· = '\x27')
        let quoted := '\x27' :: plain ++ ['\x27']
        if rest = [] then quoted
        else
          let after := rest.drop apostrophes.length
          quoted ++ '\x22' :: apostrophes ++ '\x22' :: if after = [] then [] else pieces fuel after
  pieces (text.length + 1) text

/-- What is said about a text that names no variable. -/
def badName (name : Text) : Text := name ++ ofString ": bad variable name"

/-- Gives a variable a value, if its name is one. -/
def State.setNamed (s : State) (name value : Text) : State :=
  if isName name then s.set name value else s.giveUp (badName name)

end GoldenFiles.Shell
