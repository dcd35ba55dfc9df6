import GoldenFiles.Naming.CaseId
import GoldenFiles.Path.Basic
import Mathlib.Data.List.Basic

/-!
# The orders that reports are sorted by

Identifiers are compared by a case distinction, and so are components. Both
orders are lexicographic orders in disguise: an identifier is ordered by whether
it is text, by its number, and by its text, a component by its rank and its
name. What is known of lexicographic orders, that they are transitive and that
only equal keys compare as equal, is then known of these.
-/

namespace GoldenFiles

namespace CaseId

/-- Numbers stand before texts. -/
def isText (id : CaseId) : Bool := id.number?.isNone

/-- The number of an identifier, or zero. -/
def numberOrZero (id : CaseId) : Nat := id.number?.getD 0

/-- The characters of an identifier. -/
def chars (id : CaseId) : List Char := id.text.toList

/-- Identifiers are ordered by kind, then by number, then by text. -/
theorem compare_eq_lex : (compare : CaseId → CaseId → Ordering) =
    compareLex (compareOn isText) (compareLex (compareOn numberOrZero) (compareOn chars)) := by
  funext a b
  simp only [compareLex, compareOn, isText, numberOrZero]
  unfold instOrd
  dsimp only
  cases a.number? <;> cases b.number? <;> rfl

instance : Std.TransOrd CaseId := by
  unfold Std.TransOrd
  rw [compare_eq_lex]
  infer_instance

instance : Std.LawfulEqOrd CaseId where
  compare_self := Std.ReflCmp.compare_self
  eq_of_compare {a b} h := by
    rw [compare_eq_lex, compareLex_eq_eq, compareLex_eq_eq] at h
    have hchars : a.chars = b.chars := Std.LawfulEqOrd.eq_of_compare h.2.2
    obtain ⟨text⟩ := a
    obtain ⟨text'⟩ := b
    exact congrArg CaseId.mk (String.toList_inj.mp hchars)

end CaseId

namespace Component

/-- The name of a component, or nothing. -/
def nameOrNil : Component → Name
  | normal name => name
  | _ => []

/-- Components are ordered by rank, then by name. -/
theorem compare_eq_lex : (compare : Component → Component → Ordering) =
    compareLex (compareOn rank) (compareOn nameOrNil) := by
  funext a b
  cases a <;> cases b <;> rfl

instance : Std.TransOrd Component := by
  unfold Std.TransOrd
  rw [compare_eq_lex]
  infer_instance

instance : Std.LawfulEqOrd Component where
  compare_self := Std.ReflCmp.compare_self
  eq_of_compare {a b} h := by
    rw [compare_eq_lex, compareLex_eq_eq] at h
    have hname : a.nameOrNil = b.nameOrNil := Std.LawfulEqOrd.eq_of_compare h.2
    have hrank : a.rank = b.rank := Std.LawfulEqOrd.eq_of_compare h.1
    cases a <;> cases b <;> first | rfl | exact congrArg _ hname | cases hrank

end Component

namespace Path

instance : Std.TransOrd Path :=
  inferInstanceAs (Std.TransCmp (compareOn components))

/-- Only paths with the same components compare as equal. -/
theorem same_of_compare {p q : Path} (h : compare p q = .eq) : p.Same q :=
  Std.LawfulEqOrd.eq_of_compare h

end Path

end GoldenFiles
