import GoldenFiles.Proofs.Naming.Order
import GoldenFiles.Proofs.Text.Digits
import GoldenFiles.Proofs.Text.Order

/-!
# The order of numbers

Digits write a number, and identifiers made of digits are meant to stand in the
order of their numbers, those of one number in the order of their bytes, and all
of them before every other identifier. They do as long as the number is below
2^128. From there on digits are text, and text is compared from its first
character on, so that of two long numbers the one with more digits may come
first. Two of them change places just if their bytes stand the other way round
than their numbers; with equally many digits they never do.
-/

namespace GoldenFiles.CaseId

/-! ## Digits of one length -/

/-- The first digit decides, and the rest only if the first ones are the same. -/
theorem place_lt_iff {i j x y p : Nat} (hx : x < p) (hy : y < p) :
    i * p + x < j * p + y ↔ i < j ∨ i = j ∧ x < y := by
  rcases Nat.lt_trichotomy i j with h | rfl | h
  · have := Nat.mul_le_mul_right p (Nat.succ_le_of_lt h)
    rw [Nat.succ_mul] at this
    omega
  · omega
  · have := Nat.mul_le_mul_right p (Nat.succ_le_of_lt h)
    rw [Nat.succ_mul] at this
    omega

/-- Numbers written with equally many digits stand in the order of these. -/
theorem compare_eq_lt_iff_of_length_eq {a b : List Char} (ha : ∀ c ∈ a, c.isDigit)
    (hb : ∀ c ∈ b, c.isDigit) (h : a.length = b.length) :
    compare a b = .lt ↔ Digits.value a < Digits.value b := by
  induction a generalizing b with
  | nil =>
      obtain rfl := List.length_eq_zero_iff.mp h.symm
      decide
  | cons c a ih =>
      obtain ⟨d, b, rfl⟩ := List.exists_cons_of_length_eq_add_one h.symm
      obtain ⟨hc, ha⟩ := List.forall_mem_cons.mp ha
      obtain ⟨hd, hb⟩ := List.forall_mem_cons.mp hb
      have hlength : a.length = b.length := Nat.succ.inj h
      have hlow := Digits.value_lt ha
      have hlow' := Digits.value_lt hb
      obtain ⟨hc, -⟩ := Digits.toNat_of_isDigit hc
      obtain ⟨hd, -⟩ := Digits.toNat_of_isDigit hd
      rw [hlength] at hlow
      -- the numbers that follow are both below the place of the first digits
      rw [List.compare_cons_cons, Ordering.then_eq_lt, ih ha hb hlength, Digits.value_cons,
        Digits.value_cons, hlength, place_lt_iff hlow hlow', Utf8.compare_char_eq_lt_iff,
        Std.LawfulEqOrd.compare_eq_iff_eq, ← Char.toNat_inj]
      omega

/-! ## Identifiers that write numbers -/

/-- The number that an identifier of digits writes. -/
def worth (id : CaseId) : Nat := Nat.ofDigits 10 (id.chars.reverse.map Digits.worth)

/-- The bytes of an identifier. -/
def bytes (id : CaseId) : Bytes := Utf8.encode id.text

/-- One identifier writes a smaller number, or the same one in smaller bytes. -/
def Before (a b : CaseId) : Prop :=
  a.worth < b.worth ∨ a.worth = b.worth ∧ compare a.bytes b.bytes = .lt

/-- The bytes of two identifiers stand the other way round than their numbers. -/
def Crossed (a b : CaseId) : Prop :=
  a.worth < b.worth ∧ compare a.bytes b.bytes ≠ .lt ∨
    b.worth < a.worth ∧ compare a.bytes b.bytes = .lt

theorem worth_eq (id : CaseId) : id.worth = Digits.value id.chars :=
  (Digits.value_eq_ofDigits id.chars).symm

theorem compareText_eq (a b : CaseId) : compareText a b = compare a.bytes b.bytes :=
  (Utf8.compare_encodeChars a.chars b.chars).symm

theorem number?_eq_some_iff (id : CaseId) (n : Nat) :
    id.number? = some n ↔ Digits id.chars ∧ id.worth < 2 ^ 128 ∧ id.worth = n := by
  rw [worth_eq, number?, ← chars, Option.filter_eq_some_iff, Digits.number?_eq_some_iff,
    decide_eq_true_iff]
  constructor
  · rintro ⟨⟨hdigits, rfl⟩, small⟩
    exact ⟨hdigits, small, rfl⟩
  · rintro ⟨hdigits, small, rfl⟩
    exact ⟨⟨hdigits, rfl⟩, small⟩

theorem number?_of_small {id : CaseId} (h : Digits id.chars) (small : id.worth < 2 ^ 128) :
    id.number? = some id.worth := (number?_eq_some_iff ..).mpr ⟨h, small, rfl⟩

theorem number?_of_large {id : CaseId} (large : 2 ^ 128 ≤ id.worth) : id.number? = none :=
  Option.eq_none_iff_forall_ne_some.mpr fun n h =>
    absurd ((number?_eq_some_iff id n).mp h).2.1 (Nat.not_lt.mpr large)

theorem number?_of_text {id : CaseId} (text : ∃ c ∈ id.chars, ¬c.isDigit) : id.number? = none := by
  obtain ⟨c, hc, hdigit⟩ := text
  exact Option.eq_none_iff_forall_ne_some.mpr fun n h =>
    hdigit (((number?_eq_some_iff id n).mp h).1.digits c hc)

/-- How identifiers are compared, with the texts seen as bytes. -/
theorem compare_eq (a b : CaseId) : compare a b =
    match a.number?, b.number? with
    | some m, some n => (compare m n).then (compare a.bytes b.bytes)
    | some _, none => .lt
    | none, some _ => .gt
    | none, none => compare a.bytes b.bytes := by
  rw [← compareText_eq]
  rfl

section Compare

variable {a b : CaseId}

theorem crossed_iff : a.Crossed b ↔ ¬(compare a.bytes b.bytes = .lt ↔ a.Before b) := by
  unfold Crossed Before
  grind

/-- Below 2^128 the order is the one that numbers have. -/
theorem compare_of_small (ha : Digits a.chars) (hb : Digits b.chars)
    (small : a.worth < 2 ^ 128 ∨ b.worth < 2 ^ 128) : compare a b = .lt ↔ a.Before b := by
  by_cases hsmall : a.worth < 2 ^ 128
  · by_cases hsmall' : b.worth < 2 ^ 128
    · rw [compare_eq, number?_of_small ha hsmall, number?_of_small hb hsmall']
      rw [Ordering.then_eq_lt, Nat.compare_eq_lt, Nat.compare_eq_eq]
      rfl
    · rw [compare_eq, number?_of_small ha hsmall, number?_of_large (Nat.not_lt.mp hsmall')]
      exact iff_of_true rfl (.inl (by omega))
  · have hsmall' := small.resolve_left hsmall
    rw [compare_eq, number?_of_large (Nat.not_lt.mp hsmall), number?_of_small hb hsmall']
    refine iff_of_false nofun ?_
    rintro (hlt | ⟨heq, -⟩) <;> omega

/-- From 2^128 on it is the one that texts have. -/
theorem compare_of_large (ha : 2 ^ 128 ≤ a.worth) (hb : 2 ^ 128 ≤ b.worth) :
    compare a b = compare a.bytes b.bytes := by
  rw [compare_eq, number?_of_large ha, number?_of_large hb]

theorem compare_text (ha : Digits a.chars) (text : ∃ c ∈ b.chars, ¬c.isDigit) :
    compare a b = .lt ↔ a.worth < 2 ^ 128 ∨ compare a.bytes b.bytes = .lt := by
  by_cases hsmall : a.worth < 2 ^ 128
  · rw [compare_eq, number?_of_small ha hsmall, number?_of_text text]
    exact iff_of_true rfl (.inl hsmall)
  · rw [compare_eq, number?_of_large (Nat.not_lt.mp hsmall), number?_of_text text,
      or_iff_right hsmall]

/-- Only numbers with different numbers of digits can stand the wrong way round. -/
theorem not_crossed_of_length_eq (ha : Digits a.chars) (hb : Digits b.chars)
    (h : a.chars.length = b.chars.length) : ¬a.Crossed b := by
  have hbytes : compare a.bytes b.bytes = .lt ↔ a.worth < b.worth := by
    rw [worth_eq, worth_eq, ← compare_eq_lt_iff_of_length_eq ha.digits hb.digits h,
      ← Utf8.compare_encodeChars]
    rfl
  rintro (⟨hlt, hne⟩ | ⟨hlt, heq⟩)
  · exact hne (hbytes.mpr hlt)
  · have := hbytes.mp heq
    omega

theorem worth_lt_of_length_le (ha : Digits a.chars) (h : a.chars.length ≤ 38) :
    a.worth < 2 ^ 128 := by
  rw [worth_eq]
  calc Digits.value a.chars < 10 ^ a.chars.length := Digits.value_lt ha.digits
    _ ≤ 10 ^ 38 := Nat.pow_le_pow_right (by omega) h
    _ < 2 ^ 128 := by decide

end Compare

/-- Two identifiers of digits stand in the order of their numbers, just if these are
not both too long and crossed, which they are not if they have equally many
digits. An identifier of digits comes before one that is no number if its number
is below 2^128, as it is with 38 digits. -/
theorem decimals_ordered_iff (a b : CaseId) (ha : Digits a.chars) :
    (Digits b.chars →
      ((compare a b = .lt ↔ a.Before b) ↔
        ¬(2 ^ 128 ≤ a.worth ∧ 2 ^ 128 ≤ b.worth ∧ a.Crossed b)) ∧
      (a.chars.length = b.chars.length → ¬a.Crossed b)) ∧
    ((∃ c ∈ b.chars, ¬c.isDigit) →
      (compare a b = .lt ↔ a.worth < 2 ^ 128 ∨ compare a.bytes b.bytes = .lt)) ∧
    (a.chars.length ≤ 38 → a.worth < 2 ^ 128) := by
  refine ⟨fun hb => ⟨?_, not_crossed_of_length_eq ha hb⟩, compare_text ha, worth_lt_of_length_le ha⟩
  by_cases small : a.worth < 2 ^ 128 ∨ b.worth < 2 ^ 128
  · refine iff_of_true (compare_of_small ha hb small) fun ⟨hlarge, hlarge', _⟩ => ?_
    omega
  · obtain ⟨hlarge, hlarge'⟩ := not_or.mp small
    rw [Nat.not_lt] at hlarge hlarge'
    rw [compare_of_large hlarge hlarge', and_iff_right hlarge, and_iff_right hlarge', crossed_iff,
      not_not]

theorem decimals_ordered_iff_example :
    (⟨"2"⟩ : CaseId).Before ⟨"010"⟩ ∧ compare (⟨"2"⟩ : CaseId) ⟨"010"⟩ = .lt ∧
      compare (⟨"2"⟩ : CaseId) ⟨"1a"⟩ = .lt := by
  have two : Digits (⟨"2"⟩ : CaseId).chars := by decide
  have ten : Digits (⟨"010"⟩ : CaseId).chars := by decide
  have text : ∃ c ∈ (⟨"1a"⟩ : CaseId).chars, ¬c.isDigit := ⟨'a', by decide, by decide⟩
  have before : (⟨"2"⟩ : CaseId).Before ⟨"010"⟩ := .inl (by decide)
  obtain ⟨hnumbers, -, hshort⟩ := decimals_ordered_iff ⟨"2"⟩ ⟨"010"⟩ two
  obtain ⟨-, htext, -⟩ := decimals_ordered_iff ⟨"2"⟩ ⟨"1a"⟩ two
  have small := hshort (by decide)
  exact ⟨before, ((hnumbers ten).1.mpr fun h => Nat.not_lt.mpr h.1 small).mpr before,
    (htext text).mpr (.inl small)⟩

/-- The first number that is compared as text. -/
def firstLong : CaseId := ⟨"340282366920938463463374607431768211456"⟩

/-- A larger one, with one more digit. -/
def longer : CaseId := ⟨"1000000000000000000000000000000000000000"⟩

/-- The larger of two long numbers comes first, and both come after a text. -/
theorem long_numbers_are_misordered :
    Digits firstLong.chars ∧ Digits longer.chars ∧ firstLong.Before longer ∧
      compare firstLong longer = .gt ∧ compare firstLong ⟨"-"⟩ = .gt := by
  have hworth : firstLong.worth = 2 ^ 128 := by decide +kernel
  have hworth' : longer.worth = 10 ^ 39 := by decide +kernel
  have before : firstLong.Before longer := .inl (by rw [hworth, hworth']; decide)
  exact ⟨by decide +kernel, by decide +kernel, before, by decide +kernel, by decide +kernel⟩

end GoldenFiles.CaseId
