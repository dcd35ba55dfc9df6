import GoldenFiles.Content.Comparison
import Mathlib.Data.List.Basic
import Mathlib.Data.List.Infix

/-!
# Where two contents differ

Two line sequences agree up to the end of their longest common prefix, and the
first line after it is the one that a mismatch points at. `firstDifference`
finds that place in another way, along the pairs of lines and then by the
lengths; `firstDifference_eq` says for every two lists that it is the same
place, and what is claimed of a mismatch is read off the prefix: that it points
at a line of the longer side, that it points behind the shorter side just if
that one is a prefix of the other, and that nothing but the two counts changes
when the sides are swapped.
-/

namespace GoldenFiles.Content

section CommonPrefix

variable {α : Type _} [DecidableEq α]

/-- The longest list that two lists begin with. -/
def commonPrefix : List α → List α → List α
  | [], _ => []
  | _ :: _, [] => []
  | x :: xs, y :: ys => if x = y then x :: commonPrefix xs ys else []

theorem prefix_commonPrefix_iff (p xs ys : List α) :
    p <+: commonPrefix xs ys ↔ p <+: xs ∧ p <+: ys := by
  induction p generalizing xs ys with
  | nil => exact ⟨fun _ => ⟨List.nil_prefix, List.nil_prefix⟩, fun _ => List.nil_prefix⟩
  | cons z p ih =>
      match xs, ys with
      | [], ys => simp [commonPrefix]
      | x :: xs, [] => simp [commonPrefix]
      | x :: xs, y :: ys =>
          rw [commonPrefix, List.cons_prefix_cons, List.cons_prefix_cons]
          split
          · next h =>
              subst h
              rw [List.cons_prefix_cons, ih]
              constructor
              · rintro ⟨rfl, hx, hy⟩
                exact ⟨⟨rfl, hx⟩, rfl, hy⟩
              · rintro ⟨⟨rfl, hx⟩, -, hy⟩
                exact ⟨rfl, hx, hy⟩
          · next h =>
              constructor
              · intro hp
                cases List.prefix_nil.mp hp
              · rintro ⟨⟨rfl, -⟩, rfl, -⟩
                exact absurd rfl h

theorem commonPrefix_le (xs ys : List α) :
    commonPrefix xs ys <+: xs ∧ commonPrefix xs ys <+: ys :=
  (prefix_commonPrefix_iff _ _ _).mp List.prefix_rfl

theorem commonPrefix_comm (xs ys : List α) : commonPrefix xs ys = commonPrefix ys xs := by
  have hle : ∀ xs ys : List α, commonPrefix xs ys <+: commonPrefix ys xs := by
    intro xs ys
    exact (prefix_commonPrefix_iff _ _ _).mpr (commonPrefix_le xs ys).symm
  exact (hle xs ys).eq_of_length_le (hle ys xs).length_le

/-- A list is all of the common prefix just if the other one continues it. -/
theorem length_le_commonPrefix_iff (xs ys : List α) :
    xs.length ≤ (commonPrefix xs ys).length ↔ xs <+: ys := by
  obtain ⟨hx, hy⟩ := commonPrefix_le xs ys
  constructor
  · intro h
    exact hx.eq_of_length_le h ▸ hy
  · intro h
    exact ((prefix_commonPrefix_iff _ _ _).mpr ⟨List.prefix_rfl, h⟩).length_le

theorem length_commonPrefix_lt {xs ys : List α} (h : xs ≠ ys) :
    (commonPrefix xs ys).length < max xs.length ys.length := by
  obtain ⟨hx, hy⟩ := commonPrefix_le xs ys
  have hxl := hx.length_le
  have hyl := hy.length_le
  rcases Nat.lt_or_ge (commonPrefix xs ys).length xs.length with hlt | hge
  · omega
  · have hxy : xs <+: ys := (length_le_commonPrefix_iff xs ys).mp hge
    have hlt : xs.length < ys.length :=
      Nat.lt_of_le_of_ne hxy.length_le fun heq => h (hxy.eq_of_length heq)
    omega

/-- The common prefix ends with the shorter list just if one list continues the
other. -/
theorem min_le_commonPrefix_iff (xs ys : List α) :
    min xs.length ys.length ≤ (commonPrefix xs ys).length ↔ xs <+: ys ∨ ys <+: xs := by
  rw [← length_le_commonPrefix_iff xs ys, ← length_le_commonPrefix_iff ys xs,
    commonPrefix_comm ys xs]
  omega

/-! ## The first difference -/

theorem firstDifference_cons (x y : α) (xs ys : List α) :
    firstDifference (x :: xs) (y :: ys) =
      if x = y then (firstDifference xs ys).map (· + 1) else some 0 := by
  unfold firstDifference
  rw [List.zip_cons_cons, List.findIdx?_cons]
  by_cases h : x = y
  · rw [if_pos h, if_neg (by simp [h])]
    cases (xs.zip ys).findIdx? (fun pair => pair.1 ≠ pair.2) with
    | some index => rfl
    | none =>
        simp only [Option.map_none, List.length_cons, Nat.add_right_cancel_iff]
        split
        · rfl
        · rw [Option.map_some, Nat.add_min_add_right]
  · rw [if_neg h, if_pos (by simp [h])]

/-- The pairs of lines and the lengths lead to the end of the common prefix. -/
theorem firstDifference_eq (xs ys : List α) : firstDifference xs ys =
    if xs = ys then none else some (commonPrefix xs ys).length := by
  induction xs generalizing ys with
  | nil => cases ys <;> simp [firstDifference, commonPrefix]
  | cons x xs ih =>
      cases ys with
      | nil => simp [firstDifference, commonPrefix]
      | cons y ys =>
          rw [firstDifference_cons, commonPrefix, ih]
          by_cases h : x = y
          · subst h
            by_cases hrest : xs = ys
            · simp [hrest]
            · simp [hrest]
          · simp [h]

end CommonPrefix

/-! ## Mismatches -/

/-- A mismatch that tells where two line sequences first differ. -/
structure Mismatch.Locates (m : Mismatch) (actual expected : List Bytes) : Prop where
  actualLines_eq : m.actualLines = actual.length
  expectedLines_eq : m.expectedLines = expected.length
  line_eq : ∃ common, common <+: actual ∧ common <+: expected ∧
    (∀ p, p <+: actual → p <+: expected → p <+: common) ∧ m.line = 1 + common.length
  one_le : 1 ≤ m.line
  le_max : m.line ≤ max actual.length expected.length
  beyond_iff : min actual.length expected.length < m.line ↔
    (actual <+: expected ∧ actual ≠ expected) ∨ (expected <+: actual ∧ expected ≠ actual)

/-- A mismatch told from the other side. -/
def Mismatch.swapped (m : Mismatch) : Mismatch := ⟨m.line, m.actualLines, m.expectedLines⟩

/-- What comparing finds of line sequences that differ. -/
def mismatchOf (actual expected : List Bytes) : Mismatch :=
  ⟨(commonPrefix actual expected).length + 1, expected.length, actual.length⟩

theorem compare_eq (actual expected : Bytes) : compare actual expected =
    if lines actual = lines expected then .equal
    else .differ (mismatchOf (lines actual) (lines expected)) := by
  unfold compare
  simp only [firstDifference_eq]
  by_cases h : lines actual = lines expected
  · rw [if_pos h, if_pos h]
  · rw [if_neg h, if_neg h]
    rfl

theorem compare_eq_equal_iff (actual expected : Bytes) :
    compare actual expected = .equal ↔ lines actual = lines expected := by
  rw [compare_eq]
  split
  · next h => exact iff_of_true rfl h
  · next h => exact iff_of_false Comparison.noConfusion h

theorem locates_mismatchOf {actual expected : List Bytes} (h : actual ≠ expected) :
    (mismatchOf actual expected).Locates actual expected where
  actualLines_eq := rfl
  expectedLines_eq := rfl
  line_eq := by
    obtain ⟨hactual, hexpected⟩ := commonPrefix_le actual expected
    refine ⟨_, hactual, hexpected, fun p hp hp' => ?_, Nat.add_comm _ _⟩
    exact (prefix_commonPrefix_iff _ _ _).mpr ⟨hp, hp'⟩
  one_le := Nat.le_add_left 1 _
  le_max := length_commonPrefix_lt h
  beyond_iff := by
    rw [mismatchOf, Nat.lt_add_one_iff, min_le_commonPrefix_iff]
    simp only [h, Ne.symm h, ne_eq, not_false_eq_true, and_true]

theorem mismatchOf_swap (actual expected : List Bytes) :
    mismatchOf expected actual = (mismatchOf actual expected).swapped := by
  rw [mismatchOf, commonPrefix_comm]
  rfl

/-- Contents agree just if their lines do. Else comparing tells where the lines
first differ, and told from the other side it is the same place. -/
theorem compare_tells_first_difference (actual expected : Bytes) :
    (compare actual expected = .equal ↔ lines actual = lines expected) ∧
      (lines actual ≠ lines expected → ∃ m, compare actual expected = .differ m ∧
        m.Locates (lines actual) (lines expected) ∧
        compare expected actual = .differ m.swapped) := by
  constructor
  · rw [compare_eq]
    split
    · next h => exact iff_of_true rfl h
    · next h => exact iff_of_false Comparison.noConfusion h
  · intro h
    refine ⟨_, ?_, locates_mismatchOf h, ?_⟩
    · rw [compare_eq, if_neg h]
    · rw [compare_eq, if_neg (Ne.symm h), mismatchOf_swap]

/-- The expected content has one line more. -/
theorem compare_tells_first_difference_example : lines [97, 10] ≠ lines [97, 10, 98] ∧
    ∃ m, compare [97, 10] [97, 10, 98] = .differ m ∧
      m.Locates (lines [97, 10]) (lines [97, 10, 98]) ∧ m = ⟨2, 2, 1⟩ := by
  have hne : lines [97, 10] ≠ lines [97, 10, 98] := by decide
  obtain ⟨m, hm, hlocates, -⟩ := (compare_tells_first_difference [97, 10] [97, 10, 98]).2 hne
  have hcomputed : compare [97, 10] [97, 10, 98] = .differ ⟨2, 2, 1⟩ := by decide
  refine ⟨hne, m, hm, hlocates, ?_⟩
  rw [hcomputed] at hm
  exact (Comparison.differ.inj hm).symm

end GoldenFiles.Content
