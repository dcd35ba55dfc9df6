import GoldenFiles.Decimal.Shortest

/-!
# Writing a decimal

The digits of a number are one question and where its point stands is another.
A style answers the second, and what the first leaves open: between which
exponents of the leading digit the number is written out, and what marks a whole
number. Outside these bounds the exponent is written after an `e`, always with
its sign.
-/

namespace GoldenFiles.Decimal

/-- How a number is written. -/
structure Style where
  /-- Which of two decimals is taken that are equally near. -/
  tie : Tie
  /-- The least exponent of the leading digit that is written out, if there is one. -/
  least : Option Int
  /-- The greatest one. -/
  greatest : Option Int
  /-- What follows a whole number that is written out. -/
  whole : String
  deriving Repr

/-- The exponent of the leading digit. -/
def scale (d : Decimal) : Int := d.exponent + (digitsOf d.digits).length - 1

/-- The decimal with its point where it belongs and no exponent. -/
def writeOut (whole : String) (d : Decimal) : String :=
  let digits := digitsOf d.digits
  if 0 ≤ d.exponent then
    String.ofList (digits ++ List.replicate d.exponent.toNat '0') ++ whole
  else
    let places := (-d.exponent).toNat
    let padded := List.replicate (places + 1 - digits.length) '0' ++ digits
    let point := padded.length - places
    String.ofList (padded.take point) ++ "." ++ String.ofList (padded.drop point)

/-- The decimal with one digit before the point, and its exponent. -/
def writeScaled (d : Decimal) : String :=
  let fraction := match digitsOf d.digits with
    | first :: [] => String.ofList [first]
    | first :: rest => String.ofList (first :: '.' :: rest)
    | [] => ""
  let e := d.scale
  fraction ++ (if e < 0 then "e-" else "e+") ++ String.ofList (digitsOf e.natAbs)

/-- The text of a decimal in a style. -/
def write (style : Style) (d : Decimal) : String :=
  let e := d.scale
  if style.least.all (· ≤ e) ∧ style.greatest.all (e ≤ ·) then writeOut style.whole d
  else writeScaled d

/-- The text of a number in a style. -/
def Style.text (style : Style) (x : Binary64) : String :=
  (shortest style.tie x).write style

end GoldenFiles.Decimal
