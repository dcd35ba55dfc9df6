import GoldenFiles.Decimal.Shortest
import GoldenFiles.Program.Number

/-!
# Floating numbers in text

A number with a fraction is read exactly, rounded once to the bits that a
program computes with, and printed by rounding once more to the places that are
asked for. Both roundings go to the nearest number, and from halfway to the
even one.
-/

namespace GoldenFiles.Program

/-- A fraction without a sign. -/
structure Ratio where
  num : Nat
  den : Nat := 1
  deriving DecidableEq, Repr

/-- A number as programs compute with it. -/
inductive Floating where
  /-- The mantissa times a power of two. -/
  | finite (negative : Bool) (mantissa : Nat) (exponent : Int)
  | infinite (negative : Bool)
  | noNumber (negative : Bool)
  deriving DecidableEq, Repr

/-- The numbers that a program computes with. -/
structure Precision where
  /-- How many bits a mantissa has. -/
  bits : Nat
  /-- The least exponent of a mantissa. -/
  least : Int
  /-- The greatest one. -/
  greatest : Int
  deriving DecidableEq, Repr

namespace Precision

/-- Numbers of 64 bits. -/
def double : Precision := ⟨53, -1074, 971⟩

/-- Numbers of 80 bits. -/
def extended : Precision := ⟨64, -16445, 16320⟩

/-- The number nearest to a fraction, and whether it is close to it, which it is
not if the fraction is too large or too small. -/
def nearest (p : Precision) (negative : Bool) (r : Ratio) : Floating × Bool :=
  if r.num = 0 then (.finite negative 0 0, true)
  else
    let guess : Int := (Nat.log2 r.num : Int) - (Nat.log2 r.den : Int) - (p.bits - 1 : Nat)
    let full := Nat.pow 2 (p.bits - 1)
    let below := r.num * Nat.pow 2 (-guess).toNat < full * (r.den * Nat.pow 2 guess.toNat)
    let natural := if below then guess - 1 else guess
    let e := max natural p.least
    let m := Binary64.divideToEven (r.num * Nat.pow 2 (-e).toNat) (r.den * Nat.pow 2 e.toNat)
    let (m, e) := if m = Nat.pow 2 p.bits then (full, e + 1) else (m, e)
    if p.greatest < e then (.infinite negative, false)
    else (.finite negative m e, p.least ≤ natural)

end Precision

/-! ## Reading -/

/-- A power that is as good as infinite. -/
def hugePower : Nat := 20000

/-- The fraction that digits with a point and an exponent stand for, the exponent
being that of `step`, and each digit worth a power of `base`. -/
def scaledRatio (base step : Nat) (whole fraction : Text) (exponent : Int) : Ratio :=
  let digits := valueOf base (whole ++ fraction)
  if digits = 0 then ⟨0, 1⟩
  else
    let e := max (-hugePower : Int) (min hugePower exponent)
    ⟨digits * Nat.pow step e.toNat, Nat.pow base fraction.length * Nat.pow step (-e).toNat⟩

/-- The exponent behind a mark, and what follows it. Without digits there is
none. -/
def readExponent (mark : Char) (text : Text) : Int × Text :=
  match text with
  | c :: rest =>
      let (negative, digits) := splitSign rest
      let found := digits.takeWhile Char.isDigit
      if c.toLower = mark ∧ found ≠ [] then
        let n := valueOf 10 found
        (if negative then -(n : Int) else n, digits.drop found.length)
      else (0, text)
  | [] => (0, [])

/-- The fraction that digits of a base with a point and an exponent stand for,
and what follows it. -/
def readRatio (base step : Nat) (mark : Char) (text : Text) : Option (Ratio × Text) :=
  let whole := text.takeWhile (isDigitOf base)
  let rest := text.drop whole.length
  let (fraction, rest) := match rest with
    | '.' :: more =>
        let fraction := more.takeWhile (isDigitOf base)
        if whole = [] ∧ fraction = [] then ([], rest) else (fraction, more.drop fraction.length)
    | _ => ([], rest)
  if whole = [] ∧ fraction = [] then none
  else
    let (exponent, rest) := readExponent mark rest
    some (scaledRatio base step whole fraction exponent, rest)

/-- What follows a word in front of a text, in letters of either case. -/
def afterWord? (word : String) (text : Text) : Option Text :=
  if (text.take word.length).map Char.toLower = word.toList then some (text.drop word.length)
  else none

/-- The brackets that may follow the word for no number are passed over. -/
def passBrackets (text : Text) : Text :=
  match text with
  | '(' :: rest =>
      match rest.dropWhile (fun c => c.isAlphanum || c = '_') with
      | ')' :: rest => rest
      | _ => text
  | _ => text

/-- Reads the number that a text begins with: the number, whether it is close to
what is written, and what follows it. If there is none it is zero, and all of
the text follows. -/
def Precision.read (p : Precision) (text : Text) : Floating × Bool × Text :=
  let (negative, unsigned) := splitSign (text.dropWhile isSpace)
  let number (found : Ratio × Text) : Floating × Bool × Text :=
    let (value, close) := p.nearest negative found.1
    (value, close, found.2)
  let hexadecimal := match unsigned with
    | '0' :: 'x' :: digits | '0' :: 'X' :: digits => readRatio 16 2 'p' digits
    | _ => none
  match hexadecimal, readRatio 10 10 'e' unsigned with
  | some found, _ | none, some found => number found
  | none, none =>
      let infinite := (afterWord? "infinity" unsigned).orElse fun _ => afterWord? "inf" unsigned
      match infinite, afterWord? "nan" unsigned with
      | some rest, _ => (.infinite negative, true, rest)
      | none, some rest => (.noNumber negative, true, passBrackets rest)
      | none, none => (.finite false 0 0, true, text)

/-! ## Printing -/

/-- The fraction that a mantissa and an exponent are. -/
def Ratio.ofBinary (mantissa : Nat) (exponent : Int) : Ratio :=
  ⟨mantissa * Nat.pow 2 exponent.toNat, Nat.pow 2 (-exponent).toNat⟩

/-- Digits with a point in front of the last so many, which is left out if there
is nothing behind it, unless it is wanted. -/
def withPoint (places : Nat) (wanted : Bool) (digits : Text) : Text :=
  let padded := List.replicate (places + 1 - digits.length) '0' ++ digits
  let whole := padded.take (padded.length - places)
  let fraction := padded.drop (padded.length - places)
  if fraction = [] then (if wanted then whole ++ ['.'] else whole)
  else whole ++ '.' :: fraction

/-- A fraction with so many places behind the point. -/
def fixedText (places : Nat) (point : Bool) (r : Ratio) : Text :=
  withPoint places point
    (Nat.toDigits 10 (Binary64.divideToEven (r.num * Nat.pow 10 places) r.den))

/-- The digits of a fraction, one before the point and so many behind it, and the
exponent. -/
def scientific (places : Nat) (r : Ratio) : Nat × Int :=
  if r.num = 0 then (0, 0)
  else
    let exponent := Decimal.leadingExponent r.num r.den
    let shift := (places : Int) - exponent
    let digits := Binary64.divideToEven (r.num * Nat.pow 10 shift.toNat)
      (r.den * Nat.pow 10 (-shift).toNat)
    if digits = Nat.pow 10 (places + 1) then (Nat.pow 10 places, exponent + 1)
    else (digits, exponent)

/-- An exponent of at least so many digits, behind its mark. -/
def exponentText (mark : Char) (least : Nat) (e : Int) : Text :=
  let digits := Nat.toDigits 10 e.natAbs
  mark :: (if e < 0 then '-' else '+') ::
    (List.replicate (least - digits.length) '0' ++ digits)

/-- A fraction with one digit before the point and so many behind it. -/
def scientificText (places : Nat) (point : Bool) (r : Ratio) : Text :=
  let (digits, exponent) := scientific places r
  withPoint places point (Nat.toDigits 10 digits) ++ exponentText 'e' 2 exponent

/-- A text without the zeros at the end of its fraction. -/
def withoutZeros (text : Text) : Text :=
  if text.contains '.' then
    match text.reverse.dropWhile (· = '0') with
    | '.' :: rest => rest.reverse
    | rest => rest.reverse
  else text

/-- A fraction with so many significant digits, written out if its size allows
that. -/
def generalText (significant : Nat) (keepZeros : Bool) (r : Ratio) : Text :=
  let count := max 1 significant
  let (digits, exponent) := scientific (count - 1) r
  let trim (text : Text) : Text := if keepZeros then text else withoutZeros text
  if -4 ≤ exponent ∧ exponent < count then
    trim (fixedText ((count : Int) - 1 - exponent).toNat keepZeros r)
  else
    trim (withPoint (count - 1) keepZeros (Nat.toDigits 10 digits)) ++ exponentText 'e' 2 exponent

/-- A mantissa of so many bits and its exponent in hexadecimal, the digit before
the point having so many of the bits, with so many places or as many as it
takes. -/
def hexadecimalText (bits leading : Nat) (places : Option Nat) (point : Bool) (m : Nat) (e : Int) :
    Text :=
  let all := (bits - leading + 3) / 4
  let shift := if m = 0 then 0 else bits - (Nat.log2 m + 1)
  let scaled := m * Nat.pow 2 (shift + (4 * all - (bits - leading)))
  let exponent := if m = 0 then 0 else e - shift + (bits - leading : Nat)
  let kept := (places.getD all)
  let rounded := if kept < all then Binary64.divideToEven scaled (Nat.pow 16 (all - kept)) else
    scaled * Nat.pow 16 (kept - all)
  let (rounded, exponent) :=
    if rounded = Nat.pow 16 (kept + 1) then (Nat.pow 16 kept, exponent + 4)
    else (rounded, exponent)
  let text := withPoint kept point (Nat.toDigits 16 rounded)
  let text := if places.isNone then withoutZeros text else text
  let text := if point ∧ !text.contains '.' then text ++ ['.'] else text
  '0' :: 'x' :: text ++ exponentText 'p' 1 exponent

end GoldenFiles.Program
