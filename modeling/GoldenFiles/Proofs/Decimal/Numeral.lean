import GoldenFiles.Duration
import GoldenFiles.Proofs.Json.Grammar

/-!
# Written numbers are numerals

JSON lets no zero stand in front of another digit, so the digits of a number have
to be written without one. Those of a natural number are. A decimal that is
written out ends in as many zeros as its exponent says, which is no numeral for
zero times a power of ten; but the shortest decimal of a number is zero only for
zero, and then without an exponent.
-/

namespace GoldenFiles

open Json

namespace Decimal

/-! ## Digits -/

theorem digits_digitsOf (n : Nat) : Digits (digitsOf n) :=
  ⟨Nat.toDigits_ne_nil, fun _ h => Nat.isDigit_of_mem_toDigits (by omega) (by omega) h⟩

theorem head?_digitsOf {n : Nat} (h : n ≠ 0) : (digitsOf n).head? ≠ some '0' := by
  induction n using Nat.strongRecOn with
  | ind n ih =>
      rw [digitsOf]
      by_cases hn : n < 10
      · rw [Nat.toDigits_of_lt_base hn]
        have hall : ∀ m < 10, m ≠ 0 → Nat.digitChar m ≠ '0' := by decide
        exact fun heq => hall n hn h (Option.some.inj heq)
      · have hfirst := ih (n / 10) (by omega) (by omega)
        rw [Nat.toDigits_of_base_le (by omega) (by omega)]
        rw [digitsOf] at hfirst
        cases hdigits : Nat.toDigits 10 (n / 10) with
        | nil => exact absurd hdigits Nat.toDigits_ne_nil
        | cons c rest => rwa [hdigits] at hfirst

theorem whole_digitsOf (n : Nat) : Whole (digitsOf n) := by
  refine ⟨digits_digitsOf n, fun h => ?_⟩
  by_cases hn : n = 0
  · subst hn
    rfl
  · exact absurd h (head?_digitsOf hn)

end Decimal

open Decimal

theorem Json.Whole.numeral {chars : List Char} (h : Whole chars) : Numeral chars := by
  simpa using Numeral.mk (.inl rfl) h .none .none

theorem Json.Whole.numeral_point {chars ds : List Char} (h : Whole chars) (hds : Digits ds) :
    Numeral (chars ++ '.' :: ds) := by
  simpa using Numeral.mk (.inl rfl) h (.digits hds) .none

theorem toList_toString (n : Nat) : (toString n).toList = digitsOf n := by
  rw [Nat.toString_eq_ofList_toDigits, String.toList_ofList, digitsOf]

theorem numeral_ofNat (n : Nat) : Numeral (toString n).toList := by
  rw [toList_toString]
  exact (whole_digitsOf n).numeral

theorem numeral_ofInt (n : Int) : Numeral (toString n).toList := by
  cases n with
  | ofNat m => exact numeral_ofNat m
  | negSucc m =>
      rw [show toString (Int.negSucc m) = "-" ++ toString (m + 1) from rfl, String.toList_append,
        toList_toString]
      simpa using Numeral.mk (.inr rfl) (whole_digitsOf (m + 1)) .none .none

namespace Decimal

/-! ## Decimals -/

theorem whole_digitsOf_append {n zeros : Nat} (h : n ≠ 0 ∨ zeros = 0) :
    Whole (digitsOf n ++ List.replicate zeros '0') := by
  have hdigits := digits_digitsOf n
  refine ⟨⟨List.append_ne_nil_of_left_ne_nil hdigits.ne_nil _, fun c hc => ?_⟩, fun hfirst => ?_⟩
  · obtain hc | hc := List.mem_append.mp hc
    · exact hdigits.digits c hc
    · rw [List.eq_of_mem_replicate hc]
      rfl
  · obtain hn | rfl := h
    · cases hchars : digitsOf n with
      | nil => exact absurd hchars hdigits.ne_nil
      | cons c rest =>
          rw [hchars] at hfirst
          exact absurd (hchars ▸ hfirst) (head?_digitsOf hn)
    · rw [List.replicate_zero, List.append_nil] at hfirst ⊢
      exact (whole_digitsOf n).alone hfirst

/-- Digits with zeros in front, as many as it takes for one digit before the point. -/
def padded (places : Nat) (digits : List Char) : List Char :=
  List.replicate (places + 1 - digits.length) '0' ++ digits

theorem length_padded (places : Nat) (digits : List Char) :
    (padded places digits).length = max (places + 1) digits.length := by
  rw [padded, List.length_append, List.length_replicate]
  omega

theorem digits_padded {digits : List Char} (h : Digits digits) (places : Nat) :
    ∀ c ∈ padded places digits, c.isDigit := by
  intro c hc
  obtain hc | hc := List.mem_append.mp hc
  · rw [List.eq_of_mem_replicate hc]
    rfl
  · exact h.digits c hc

theorem digits_drop_padded {digits : List Char} (h : Digits digits) {places : Nat}
    (hplaces : 0 < places) :
    Digits ((padded places digits).drop ((padded places digits).length - places)) := by
  refine ⟨fun hnil => ?_, fun c hc => digits_padded h places c (List.mem_of_mem_drop hc)⟩
  have hlength := congrArg List.length hnil
  rw [List.length_drop, length_padded, List.length_nil] at hlength
  omega

/-- What stands before the point is one zero, or the first of several digits. -/
theorem whole_take_padded {digits : List Char} (h : Whole digits) {places : Nat}
    (hplaces : 0 < places) :
    Whole ((padded places digits).take ((padded places digits).length - places)) := by
  by_cases hlen : digits.length ≤ places
  · have htake : (padded places digits).take ((padded places digits).length - places) = ['0'] := by
      rw [length_padded, show max (places + 1) digits.length - places = 0 + 1 by omega, padded,
        show places + 1 - digits.length = (places - digits.length) + 1 by omega,
        List.replicate_succ, List.cons_append, List.take_succ_cons, List.take_zero]
    rw [htake]
    exact whole_digitsOf 0
  · have hpadded : padded places digits = digits := by
      rw [padded, show places + 1 - digits.length = 0 by omega, List.replicate_zero, List.nil_append]
    rw [hpadded]
    refine ⟨⟨fun hnil => ?_, fun c hc => h.digits c (List.mem_of_mem_take hc)⟩, fun hfirst => ?_⟩
    · have hlength := congrArg List.length hnil
      rw [List.length_take, List.length_nil] at hlength
      omega
    · rw [List.head?_take, if_neg (by omega)] at hfirst
      have hone := congrArg List.length (h.alone hfirst)
      rw [List.length_singleton] at hone
      omega

theorem numeral_writeOut {d : Decimal} (h : d.digits = 0 → d.exponent ≤ 0) :
    Numeral (writeOut ".0" d).toList := by
  unfold writeOut
  simp only []
  split
  · next hexponent =>
      rw [String.toList_append, String.toList_ofList]
      exact (whole_digitsOf_append (by omega)).numeral_point (digits_digitsOf 0)
  · next hexponent =>
      have hplaces : 0 < (-d.exponent).toNat := by omega
      simp only [String.toList_append, String.toList_ofList, List.append_assoc]
      exact (whole_take_padded (whole_digitsOf d.digits) hplaces).numeral_point
        (digits_drop_padded (digits_digitsOf d.digits) hplaces)

theorem power_of_scale (e : Int) :
    Power ((if e < 0 then "e-" else "e+").toList ++ digitsOf e.natAbs) := by
  have hdigits := digits_digitsOf e.natAbs
  split
  · exact .digits (.inl rfl) (.inr (.inr rfl)) hdigits
  · exact .digits (.inl rfl) (.inr (.inl rfl)) hdigits

theorem numeral_writeScaled (d : Decimal) : Numeral (writeScaled d).toList := by
  have hdigits := digits_digitsOf d.digits
  have hpower := power_of_scale d.scale
  unfold writeScaled
  simp only [String.toList_append, String.toList_ofList, List.append_assoc]
  cases hchars : digitsOf d.digits with
  | nil => exact absurd hchars hdigits.ne_nil
  | cons first rest =>
      rw [hchars] at hdigits
      obtain ⟨hfirst, hrest⟩ := List.forall_mem_cons.mp hdigits.digits
      have hwhole : Whole [first] := ⟨⟨nofun, by simpa using hfirst⟩, by simp⟩
      cases rest with
      | nil =>
          have hmk := Numeral.mk (.inl rfl) hwhole .none hpower
          simp only [String.toList_ofList]
          rwa [List.nil_append, List.nil_append] at hmk
      | cons second rest =>
          simp only [String.toList_ofList]
          exact .mk (.inl rfl) hwhole (.digits ⟨List.cons_ne_nil second rest, hrest⟩) hpower

/-! ## The shortest decimal -/

theorem Interval.digits_pos {i : Interval} (low : 0 < i.low) {n : Nat} {k : Int}
    (h : i.contains n k) : 0 < n := by
  refine Nat.pos_of_ne_zero ?_
  rintro rfl
  have hunit : 0 < i.low * Nat.pow 10 (-k).toNat := Nat.mul_pos low (Nat.pow_pos (by omega))
  unfold contains at h
  simp only [Nat.zero_mul] at h
  split at h
  · have hle := (decide_eq_true_eq.mp h).1
    omega
  · have hlt := (decide_eq_true_eq.mp h).1
    omega

theorem le_nearer (tie : Tie) (below twice unit : Nat) : below ≤ tie.nearer below twice unit := by
  unfold Tie.nearer
  split
  · omega
  · split
    · omega
    · cases tie with
      | larger | even => simp only []; omega

theorem onGrid?_digits_pos {tie : Tie} {i : Interval} (low : 0 < i.low) {k : Int} {d : Decimal}
    (h : i.onGrid? tie k = some d) : 0 < d.digits := by
  unfold Interval.onGrid? at h
  simp only [] at h
  split at h
  · next hbelow _ =>
      obtain rfl := Option.some.inj h
      exact Nat.lt_of_lt_of_le (Interval.digits_pos low hbelow) (le_nearer ..)
  · next hbelow _ =>
      obtain rfl := Option.some.inj h
      exact Interval.digits_pos low hbelow
  · obtain rfl := Option.some.inj h
    exact Nat.succ_pos _
  · cases h

theorem normalize_go_digits_pos {n : Nat} (hn : 0 < n) (fuel : Nat) (e : Int) :
    0 < (normalize.go fuel n e).digits := by
  induction fuel generalizing n e with
  | zero => exact hn
  | succ fuel ih =>
      rw [normalize.go]
      split
      · exact ih (by omega) _
      · exact hn

theorem Interval.low_pos {x : Binary64} (h : x.mantissa ≠ 0) : 0 < (Interval.of x).low := by
  unfold Interval.of
  simp only []
  exact Nat.mul_pos (by split <;> omega) (Nat.pow_pos (by omega))

/-- A decimal that is zero is written without an exponent. -/
theorem shortest_exponent (tie : Tie) (x : Binary64) (h : (shortest tie x).digits = 0) :
    (shortest tie x).exponent = 0 := by
  unfold shortest at h ⊢
  by_cases hx : x.mantissa = 0
  · rw [if_pos hx]
  · rw [if_neg hx] at h ⊢
    simp only [] at h ⊢
    cases hfound : (List.range 17).findSome? fun (n : Nat) => (Interval.of x).onGrid? tie
        (leadingExponent (Interval.of x).num (Interval.of x).den - (n : Int)) with
    | none => rfl
    | some d =>
        rw [hfound, Option.getD_some] at h
        obtain ⟨n, -, hgrid⟩ := List.exists_of_findSome?_eq_some hfound
        have hdigits := onGrid?_digits_pos (Interval.low_pos hx) hgrid
        have hpos := normalize_go_digits_pos hdigits d.digits d.exponent
        rw [normalize] at h
        omega

end Decimal

/-- The seconds in a document are a number. -/
theorem Duration.isNumeral (d : Duration) : Json.Numeral d.numeral.toList := by
  have hzero := shortest_exponent documentStyle.tie d.inSeconds
  unfold numeral Style.text write
  simp only []
  split
  · exact numeral_writeOut fun h => Int.le_of_eq (hzero h)
  · exact numeral_writeScaled _

end GoldenFiles
