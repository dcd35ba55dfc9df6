import GoldenFiles.Program.Process

/-!
# Commands

What a shell script says, as far as test programs say it. A word is a row of
parts, which are texts or stand for texts; a command is a row of words with
redirections, or is built from other commands. Words and commands contain each
other, because a word can stand for what a command prints.
-/

namespace GoldenFiles.Shell

open Program (Text)

/-- Which end of a value a pattern takes away, and whether as much as it can. -/
inductive Trim where
  | shortestPrefix
  | longestPrefix
  | shortestSuffix
  | longestSuffix
  deriving DecidableEq, Repr

/-- Where a redirection leads. -/
inductive Direction where
  | read
  | write
  /-- To a file that may be there already, whatever the settings. -/
  | overwrite
  | append
  /-- To a file that is read and written. -/
  | update
  /-- To where another descriptor leads. -/
  | duplicate
  /-- To the text that is written below the command. -/
  | below
  deriving DecidableEq, Repr

mutual

/-- A part of a word. What is quoted is not taken apart any more. -/
inductive Part where
  | text (quoted : Bool) (text : Text)
  | parameter (quoted : Bool) (name : Text) (use : Use)
  | printed (quoted : Bool) (body : Command)
  | arithmetic (quoted : Bool) (expression : List Part)
  /-- The home of a user, or of who runs the shell. -/
  | home (user : Text)

/-- How the value of a parameter is used. With `orEmpty`, a value that is empty
counts as none. -/
inductive Use where
  | value
  | length
  | default (orEmpty : Bool) (word : List Part)
  | assign (orEmpty : Bool) (word : List Part)
  | alternative (orEmpty : Bool) (word : List Part)
  | insist (orEmpty : Bool) (word : List Part)
  | trim (how : Trim) (pattern : List Part)
  /-- In a way there is none. -/
  | unknown

/-- A redirection of a descriptor. -/
inductive Redirection where
  | mk (descriptor : Nat) (direction : Direction) (word : List Part)

/-- A command. -/
inductive Command where
  | empty
  | simple (line : Nat) (assignments : List (Text × List Part)) (words : List (List Part))
      (redirections : List Redirection)
  | redirected (line : Nat) (body : Command) (redirections : List Redirection)
  | pipe (first second : Command)
  | not (body : Command)
  | and (first second : Command)
  | or (first second : Command)
  | sequence (first second : Command)
  | background (body : Command)
  | subshell (line : Nat) (body : Command)
  | choice (test yes no : Command)
  /-- Repeats while the test succeeds, or until it does. -/
  | loop (untilDone : Bool) (test body : Command)
  /-- Without words it runs over the arguments. -/
  | forEach (line : Nat) (name : Text) (words : Option (List (List Part))) (body : Command)
  | select (line : Nat) (word : List Part) (arms : List (List (List Part) × Command))
  | define (name : Text) (body : Command)

end

/-- A word. -/
abbrev Word := List Part

namespace Command

/-- How many pipes a command has by itself. -/
def pipes : Command → Nat
  | .pipe _ second => second.pipes + 1
  | _ => 0

/-- A command without the parentheses around all of it, for a process of its own. -/
def unwrapped : Command → Command
  | .subshell _ body => body
  | .redirected line (.subshell _ body) redirections => .redirected line body redirections
  | c => c

/-- The first of the commands that a command is made of, and the others. -/
def steps : Command → Command × Option Command
  | .sequence first second => (first, some second)
  | c => (c, none)

end Command

end GoldenFiles.Shell
