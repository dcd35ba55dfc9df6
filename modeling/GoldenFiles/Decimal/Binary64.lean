/-!
# Non-negative binary64 numbers

Times are shown as binary64 numbers, so their digits depend on two roundings:
the nanoseconds are divided by 10^9, the quotient is added to the seconds, and
each result is the nearest number of 53 significant bits, a tie going to the
even one. The numbers are kept as mantissa and exponent and all of this is done
in natural numbers, exactly, so that what a digit means can be argued about.
-/

namespace GoldenFiles

/-- The number `mantissa * 2 ^ exponent`. -/
structure Binary64 where
  mantissa : Nat
  exponent : Int
  deriving DecidableEq, Repr

namespace Binary64

/-- The quotient to the nearest whole number, a tie to the even one. -/
def divideToEven (num den : Nat) : Nat :=
  let q := num / den
  let r := num % den
  if 2 * r < den then q
  else if den < 2 * r then q + 1
  else q + q % 2

/-- The mantissa that a positive fraction has at an exponent. -/
def mantissaAt (num den : Nat) (e : Int) : Nat :=
  divideToEven (num * Nat.pow 2 (-e).toNat) (den * Nat.pow 2 e.toNat)

/-- The exponent at which a positive fraction has 53 bits before the point, or
the least one there is. -/
def exponentOf (num den : Nat) : Int :=
  let guess : Int := (Nat.log2 num : Int) - (Nat.log2 den : Int) - 52
  let exact := if num * Nat.pow 2 (-guess).toNat < Nat.pow 2 52 * (den * Nat.pow 2 guess.toNat)
    then guess - 1 else guess
  max exact (-1074)

/-- The nearest number to a fraction. -/
def ofRatio (num den : Nat) : Binary64 :=
  if num = 0 then ⟨0, 0⟩
  else
    let e := exponentOf num den
    let m := mantissaAt num den e
    if m = Nat.pow 2 53 then ⟨Nat.pow 2 52, e + 1⟩ else ⟨m, e⟩

/-- The nearest number to a whole one. -/
def ofNat (n : Nat) : Binary64 := ofRatio n 1

/-- The sum, rounded once. -/
def add (a b : Binary64) : Binary64 :=
  let e := min a.exponent b.exponent
  let sum := a.mantissa * Nat.pow 2 (a.exponent - e).toNat +
    b.mantissa * Nat.pow 2 (b.exponent - e).toNat
  ofRatio (sum * Nat.pow 2 e.toNat) (Nat.pow 2 (-e).toNat)

end Binary64

end GoldenFiles
