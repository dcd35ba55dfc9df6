import GoldenFiles.Program.Floating
import GoldenFiles.Program.Utility.Basic

/-!
# Letting time pass

A time is a number with a unit behind it, seconds if there is none. All times
are added up.
-/

namespace GoldenFiles.Program.Utility

/-- How many seconds a unit has. -/
def unitSeconds? : Text → Option Nat
  | [] | ['s'] => some 1
  | ['m'] => some 60
  | ['h'] => some 3600
  | ['d'] => some 86400
  | _ => none

/-- A time that is waited for. -/
inductive Interval where
  | finite (nanoseconds : Nat)
  | endless
  deriving DecidableEq, Repr

/-- The time that is written with a unit. -/
def interval? (text : Text) : Option Interval :=
  let (time, _, rest) := Precision.double.read text
  if rest = text then none
  else
    (unitSeconds? rest).bind fun unit =>
      match time with
      | .finite negative mantissa exponent =>
          if negative ∧ mantissa ≠ 0 then none
          else
            let r := Ratio.ofBinary (mantissa * unit * Nat.pow 10 9) exponent
            some (.finite ((r.num + r.den - 1) / r.den))
      | .infinite negative => if negative then none else some .endless
      | .noNumber _ => none

/-- Lets a time pass. What is endless lasts as long as the process may run. -/
def wait (p : Process) : Interval → Process
  | .finite nanoseconds => p.pass nanoseconds
  | .endless => p.pass ((p.deadline.map (· - p.clock)).getD 0)

/-- Lets time pass. -/
def sleep : Utility := Options.program { letters := "" } "sleep" fun _ times p =>
  let intervals := times.map fun word => (word, interval? word)
  match intervals.filter (·.2.isNone) with
  | [] =>
      if times = [] then (1, hint "sleep" (p.complain "sleep" (ofString "missing operand")))
      else (0, (intervals.filterMap Prod.snd).foldl wait p)
  | wrong =>
      let refuse (p : Process) (word : Text) : Process :=
        p.complain "sleep" (ofString "invalid time interval " ++ quoted word)
      (1, hint "sleep" ((wrong.map Prod.fst).foldl refuse p))

end GoldenFiles.Program.Utility
