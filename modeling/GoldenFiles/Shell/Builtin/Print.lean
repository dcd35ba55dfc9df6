import GoldenFiles.Program.Format
import GoldenFiles.Shell.Builtin.Basic

/-!
# Commands that print their arguments

One prints its arguments with escapes carried out, the other one by a format.
-/

namespace GoldenFiles.Shell

open Program (Text ofString)

/-- The escapes in an argument that is printed. -/
def argumentEscapes : Program.Escapes := { zeroApart := true, ends := true }

/-- Prints its arguments with escapes carried out. -/
def echo : Builtin := fun arguments s =>
  let silent := arguments.head? = some ['-', 'n']
  let words := if silent then arguments.tail else arguments
  let (text, ended) := Program.unescaped argumentEscapes 0 (Program.spaced words)
  (s.print (if silent ∨ ended ≠ .complete then text else text ++ ['\n'])).done 0

/-- How the shell prints by a format. -/
def dialect : Program.Dialect where
  precision := .double
  leadingBits := 1
  escapes := {}
  argumentEscapes := argumentEscapes
  exact := false
  notNumber text := text ++ ofString ": expected numeric value"
  notWhole text := text ++ ofString ": not completely converted"
  tooLarge text := text ++ ofString ": Numerical result out of range"
  unknown directive := directive ++ ofString ": invalid directive"
  unfinished _ := ofString "missing format character"

/-- Prints its arguments by a format. -/
def printf : Builtin := withOptions "" fun _ arguments s =>
  match arguments with
  | [] => s.giveUp (ofString "usage: printf format [arg ...]")
  | format :: arguments =>
      let printed := dialect.print format arguments
      let s := printed.complaints.foldl (·.complain ·) (s.print printed.text)
      match printed.ended with
      | .refused why => s.giveUp why
      | _ => s.done (if printed.complaints = [] then 0 else 1)

end GoldenFiles.Shell
