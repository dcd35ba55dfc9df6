/-!
# Digits

Identifiers, options and documents write their numbers in decimal digits, and
each of them has a limit of its own. What they have in common is here, and what
a hexadecimal digit is worth.
-/

namespace GoldenFiles

/-- One decimal digit or more. -/
structure Digits (chars : List Char) : Prop where
  ne_nil : chars ≠ []
  digits : ∀ c ∈ chars, c.isDigit

theorem digits_iff (chars : List Char) : Digits chars ↔ chars ≠ [] ∧ chars.all Char.isDigit :=
  ⟨fun h => ⟨h.ne_nil, List.all_eq_true.mpr h.digits⟩, fun h => ⟨h.1, List.all_eq_true.mp h.2⟩⟩

instance (chars : List Char) : Decidable (Digits chars) := decidable_of_iff _ (digits_iff chars).symm

namespace Digits

/-- The number that one digit writes. -/
def worth (c : Char) : Nat := c.toNat - '0'.toNat

/-- The number that digits write. -/
def value (chars : List Char) : Nat := chars.foldl (fun n c => n * 10 + worth c) 0

/-- The number that a text writes, if it is made of digits. -/
def number? (chars : List Char) : Option Nat := if Digits chars then some (value chars) else none

end Digits

/-- The value of a hexadecimal digit. -/
def hexDigit? (c : Char) : Option Nat :=
  if c.isDigit then some (Digits.worth c)
  else if 'a' ≤ c ∧ c ≤ 'f' then some (c.toNat - 'a'.toNat + 10)
  else if 'A' ≤ c ∧ c ≤ 'F' then some (c.toNat - 'A'.toNat + 10)
  else none

end GoldenFiles
