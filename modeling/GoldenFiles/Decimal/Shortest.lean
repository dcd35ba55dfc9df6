import GoldenFiles.Decimal.Binary64

/-!
# The fewest digits that read back

A number is shown with as few significant digits as still name it: the shortest
decimal among all that round to it, and of several that short the nearest. The
decimals that round to a number fill an interval around it, half a step to
either side, ends included when the mantissa is even. For one digit, two
digits, and so on up to seventeen, the two neighbours of the number on that
decimal grid are tried; if any point of the grid lies in the interval, one of
these does.
-/

namespace GoldenFiles

/-- The number `digits * 10 ^ exponent`. -/
structure Decimal where
  digits : Nat
  exponent : Int
  deriving DecidableEq, Repr

namespace Decimal

/-- The digits of a natural number. -/
def digitsOf (n : Nat) : List Char := Nat.toDigits 10 n

/-- The exponent of the leading digit of a positive fraction. -/
def leadingExponent (num den : Nat) : Int :=
  if den ≤ num then ((digitsOf (num / den)).length : Int) - 1
  else -((digitsOf ((den - 1) / num)).length : Int)

/-- Moves the zeros at the end of the digits into the exponent. -/
def normalize (d : Decimal) : Decimal := go d.digits d.digits d.exponent
where
  /-- The number bounds how often it can be divided. -/
  go : Nat → Nat → Int → Decimal
    | fuel + 1, n, e => if n ≠ 0 ∧ n % 10 = 0 then go fuel (n / 10) (e + 1) else ⟨n, e⟩
    | 0, n, e => ⟨n, e⟩

/-- The decimals that name a number: those between `low / den` and
`high / den`, nearest to `num / den` first, with or without the ends. -/
structure Interval where
  low : Nat
  num : Nat
  high : Nat
  den : Nat
  closed : Bool
  deriving Repr

/-- The decimals that round to a positive number. Below a power of two the step
is half as wide as above it. -/
def Interval.of (x : Binary64) : Interval :=
  let scale := Nat.pow 2 (x.exponent - 2).toNat
  let below := if x.mantissa = Nat.pow 2 52 ∧ -1074 < x.exponent then 1 else 2
  { low := (4 * x.mantissa - below) * scale
    num := 4 * x.mantissa * scale
    high := (4 * x.mantissa + 2) * scale
    den := Nat.pow 2 (2 - x.exponent).toNat
    closed := x.mantissa % 2 = 0 }

/-- Whether `n * 10 ^ k` lies in the interval. -/
def Interval.contains (i : Interval) (n : Nat) (k : Int) : Bool :=
  let point := n * Nat.pow 10 k.toNat * i.den
  let unit := Nat.pow 10 (-k).toNat
  if i.closed then i.low * unit ≤ point ∧ point ≤ i.high * unit
  else i.low * unit < point ∧ point < i.high * unit

/-- Which of two neighbours is taken that are equally near. -/
inductive Tie where
  | larger
  | even
  deriving DecidableEq, Repr

/-- The nearer of a number's two neighbours, given twice the distance from the
one below and the distance between the two. -/
def Tie.nearer (tie : Tie) (below twice unit : Nat) : Nat :=
  if twice < unit then below
  else if unit < twice then below + 1
  else match tie with
    | .larger => below + 1
    | .even => below + below % 2

/-- The better of the two neighbours on the grid of `10 ^ k`, if one is in the
interval. -/
def Interval.onGrid? (tie : Tie) (i : Interval) (k : Int) : Option Decimal :=
  let unit := i.den * Nat.pow 10 k.toNat
  let scaled := i.num * Nat.pow 10 (-k).toNat
  let below := scaled / unit
  match i.contains below k, i.contains (below + 1) k with
  | true, true => some ⟨tie.nearer below (2 * (scaled % unit)) unit, k⟩
  | true, false => some ⟨below, k⟩
  | false, true => some ⟨below + 1, k⟩
  | false, false => none

/-- The shortest decimal that names a number. -/
def shortest (tie : Tie) (x : Binary64) : Decimal :=
  if x.mantissa = 0 then ⟨0, 0⟩
  else
    let i := Interval.of x
    let top := leadingExponent i.num i.den
    let found := (List.range 17).findSome? fun (n : Nat) => i.onGrid? tie (top - (n : Int))
    normalize (found.getD ⟨0, 0⟩)

end Decimal

end GoldenFiles
