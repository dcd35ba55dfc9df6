import GoldenFiles.Text.Digits
import Mathlib.Data.List.Induction
import Mathlib.Data.Nat.Digits.Defs

/-!
# The number that digits write

Digits are read from the left, and the number that comes out is the one that they
write in their base. In base ten it is below the power of ten that their length
says, and so the first digit of two equally long ones decides before the rest does.
-/

namespace GoldenFiles

/-- Reading digits from the left gives the number that they write in their base. -/
theorem foldl_eq_ofDigits (base : Nat) (values : List Nat) :
    values.foldl (fun n d => n * base + d) 0 = Nat.ofDigits base values.reverse := by
  induction values using List.reverseRecOn with
  | nil => rfl
  | append_singleton values d ih =>
      rw [List.foldl_append, ih, List.reverse_concat, Nat.ofDigits_cons, Nat.mul_comm, Nat.add_comm]
      rfl

namespace Digits

theorem toNat_of_isDigit {c : Char} (h : c.isDigit) : c.toNat = 48 + worth c ∧ worth c < 10 := by
  obtain ⟨hlow, hhigh⟩ := by simpa [Char.isDigit, UInt32.le_iff_toNat_le] using h
  show c.toNat = 48 + (c.toNat - 48) ∧ c.toNat - 48 < 10
  omega

theorem value_eq_ofDigits (digits : List Char) :
    value digits = Nat.ofDigits 10 (digits.reverse.map worth) := by
  rw [value, List.map_reverse, ← foldl_eq_ofDigits, List.foldl_map]

theorem value_cons (c : Char) (digits : List Char) :
    value (c :: digits) = worth c * 10 ^ digits.length + value digits := by
  rw [value_eq_ofDigits, value_eq_ofDigits, List.reverse_cons, List.map_append, Nat.ofDigits_append,
    List.map_singleton, Nat.ofDigits_singleton, List.length_map, List.length_reverse]
  rw [Nat.mul_comm (10 ^ _), Nat.add_comm]

theorem value_lt {digits : List Char} (h : ∀ c ∈ digits, c.isDigit) :
    value digits < 10 ^ digits.length := by
  have hdigits : ∀ n ∈ digits.reverse.map worth, n < 10 := by
    intro n hn
    obtain ⟨c, hc, rfl⟩ := List.mem_map.mp hn
    exact (toNat_of_isDigit (h c (List.mem_reverse.mp hc))).2
  have hlt := Nat.ofDigits_lt_base_pow_length (by omega) hdigits
  rwa [← value_eq_ofDigits, List.length_map, List.length_reverse] at hlt

theorem number?_eq_some_iff (chars : List Char) (n : Nat) :
    number? chars = some n ↔ Digits chars ∧ value chars = n := by
  rw [number?, Option.ite_none_right_eq_some, Option.some.injEq]

end Digits

end GoldenFiles
