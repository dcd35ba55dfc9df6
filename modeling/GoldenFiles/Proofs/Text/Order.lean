import GoldenFiles.Proofs.Text.Decoding
import Mathlib.Data.List.Basic

/-!
# Texts stand in the order of their bytes

Sorting texts by their characters and sorting them by their bytes is the same.
The encoding is made for that: a character with a larger number takes as many
bytes or more, more bytes begin with a larger one, and within one length the
six-bit digits of the number are written from the first to the last. So the
bytes of two characters differ before either of them ends, and differ there as
the characters do.
-/

namespace GoldenFiles.Utf8

/-- Byte strings are compared at the first place where they differ. -/
theorem compare_cons_eq_lt {i j : Nat} (hj : j < 256) (hle : i ≤ j) {x y : Bytes}
    (rest : i = j → compare x y = .lt) :
    compare (UInt8.ofNat i :: x) (UInt8.ofNat j :: y) = .lt := by
  rw [List.compare_cons_cons, Ordering.then_eq_lt, Std.compare_eq_lt, UInt8.lt_iff_toNat_lt,
    toNat_ofNat (by omega), toNat_ofNat hj]
  rcases Nat.lt_or_eq_of_le hle with hlt | rfl
  · exact .inl hlt
  · exact .inr ⟨Std.ReflOrd.compare_self, rest rfl⟩

theorem compare_append_self (bytes x y : Bytes) :
    compare (bytes ++ x) (bytes ++ y) = compare x y := by
  induction bytes with
  | nil => rfl
  | cons b bytes ih =>
      rw [List.cons_append, List.cons_append, List.compare_cons_cons, ih, Std.ReflOrd.compare_self]
      rfl

/-- The bytes of a smaller character come first, whatever follows. -/
theorem compare_encodeChar_of_lt {c d : Char} (h : c.toNat < d.toNat) (x y : Bytes) :
    compare (encodeChar c ++ x) (encodeChar d ++ y) = .lt := by
  have hd := valid d
  simp only [encodeChar]
  generalize c.toNat = n at *
  generalize d.toNat = m at *
  -- a longer form begins with a larger byte, and one form is compared digit by digit
  by_cases h1 : n < 0x80
  · rw [if_pos h1]
    split
    · exact compare_cons_eq_lt (by omega) (by omega) (by omega)
    · split
      · exact compare_cons_eq_lt (by omega) (by omega) (by omega)
      · split <;> exact compare_cons_eq_lt (by omega) (by omega) (by omega)
  · rw [if_neg h1, if_neg (show ¬m < 0x80 by omega)]
    by_cases h2 : n < 0x800
    · rw [if_pos h2]
      split
      · exact compare_cons_eq_lt (by omega) (by omega) fun _ =>
          compare_cons_eq_lt (by omega) (by omega) (by omega)
      · split <;> exact compare_cons_eq_lt (by omega) (by omega) (by omega)
    · rw [if_neg h2, if_neg (show ¬m < 0x800 by omega)]
      by_cases h3 : n < 0x10000
      · rw [if_pos h3]
        split
        · exact compare_cons_eq_lt (by omega) (by omega) fun _ =>
            compare_cons_eq_lt (by omega) (by omega) fun _ =>
              compare_cons_eq_lt (by omega) (by omega) (by omega)
        · exact compare_cons_eq_lt (by omega) (by omega) (by omega)
      · rw [if_neg h3, if_neg (show ¬m < 0x10000 by omega)]
        exact compare_cons_eq_lt (by omega) (by omega) fun _ =>
          compare_cons_eq_lt (by omega) (by omega) fun _ =>
            compare_cons_eq_lt (by omega) (by omega) fun _ =>
              compare_cons_eq_lt (by omega) (by omega) (by omega)

theorem compare_nil_encodeChars (c : Char) (text : List Char) :
    compare [] (encodeChars (c :: text)) = .lt := by
  obtain ⟨b, rest, hb⟩ := List.exists_cons_of_ne_nil (encodeChar_ne_nil c)
  rw [encodeChars, List.flatMap_cons, hb]
  rfl

theorem compare_char_eq_lt_iff (c d : Char) : compare c d = .lt ↔ c.toNat < d.toNat := by
  show compareOfLessAndEq c d = .lt ↔ _
  rw [compareOfLessAndEq_eq_lt]
  rfl

/-- Texts stand in the order of their bytes. -/
theorem compare_encodeChars (a b : List Char) :
    compare (encodeChars a) (encodeChars b) = compare a b := by
  induction a generalizing b with
  | nil =>
      cases b with
      | nil => rfl
      | cons d b => exact compare_nil_encodeChars d b
  | cons c a ih =>
      cases b with
      | nil =>
          rw [Std.OrientedOrd.eq_swap, show encodeChars [] = [] from rfl, compare_nil_encodeChars]
          rfl
      | cons d b =>
          rw [List.compare_cons_cons, encodeChars, encodeChars, List.flatMap_cons,
            List.flatMap_cons]
          cases hcd : compare c d with
          | lt => exact compare_encodeChar_of_lt ((compare_char_eq_lt_iff c d).mp hcd) _ _
          | eq =>
              obtain rfl : c = d := Std.LawfulEqOrd.eq_of_compare hcd
              rw [compare_append_self]
              exact ih b
          | gt =>
              rw [Std.OrientedOrd.eq_swap, Ordering.swap_eq_gt] at hcd
              rw [Std.OrientedOrd.eq_swap,
                compare_encodeChar_of_lt ((compare_char_eq_lt_iff d c).mp hcd)]
              rfl

end GoldenFiles.Utf8
