import GoldenFiles.Program.Format
import GoldenFiles.Program.Utility.Basic

/-!
# Programs that print their arguments

One prints its arguments as they are, the other one by a format.
-/

namespace GoldenFiles.Program.Utility

/-- Prints its arguments, without an end of line if asked. Escapes are carried
out only if that is asked as well. -/
def echo : Utility := fun arguments p =>
  let isOption (word : Text) : Bool := match word with
    | '-' :: c :: rest => (c :: rest).all ("neE".toList.contains ·)
    | _ => false
  let letters := (arguments.takeWhile isOption).flatMap List.tail
  let text := spaced (arguments.dropWhile isOption)
  let escapes := (letters.reverse.find? (· ≠ 'n')) = some 'e'
  let (text, ended) := if escapes then unescaped .echoed 0 text else (text, .complete)
  let silent := ended ≠ .complete ∨ letters.contains 'n'
  printing "echo" 0 (if silent then text else text ++ ['\n']) p

/-- How the program prints by a format. -/
def dialect : Dialect where
  precision := .extended
  leadingBits := 4
  escapes := { hexadecimal := true, characters := true, ends := true }
  argumentEscapes := { zeroApart := true, hexadecimal := true, characters := true, ends := true }
  exact := true
  notNumber text := quoted text ++ ofString ": expected a numeric value"
  notWhole text := quoted text ++ ofString ": value not completely converted"
  tooLarge text := quoted text ++ ofString ": Numerical result out of range"
  unknown directive := directive ++ ofString ": invalid conversion specification"
  unfinished directive := directive ++ ofString ": invalid conversion specification"

/-- Prints its arguments by a format. An escape that ends all output ends the program
as if nothing were wrong. -/
def printf : Utility := fun arguments p =>
  match (if arguments.head? = some ['-', '-'] then arguments.tail else arguments) with
  | [] => (1, hint "printf" (p.complain "printf" (ofString "missing operand")))
  | format :: arguments =>
      let printed := dialect.print format arguments
      let excess := match printed.ended, printed.rest with
        | .complete, argument :: _ =>
            [ofString "warning: ignoring excess arguments, starting with " ++ quoted argument]
        | _, _ => []
      let refusal := match printed.ended with
        | .refused why => [why]
        | _ => []
      let status :=
        if printed.ended = .stopped ∨ printed.complaints = [] ∧ refusal = [] then 0 else 1
      let (status, p) := printing "printf" status printed.text p
      (status, (printed.complaints ++ refusal ++ excess).foldl (·.complain "printf" ·) p)

end GoldenFiles.Program.Utility
