import GoldenFiles.Yaml.Source

/-!
# White space between the words of a scalar

White space on one line stands for itself. Across lines only the breaks count:
one break becomes a space, and of several the first is dropped, so that empty
lines show as breaks. The Unicode separators are never made a space.
-/

namespace GoldenFiles.Yaml

/-- What white space between two words stands for. -/
def folded (run : List Char) : List Char :=
  match run.filter isBreak with
  | [] => run
  | '\n' :: [] => [' ']
  | '\n' :: more => more
  | breaks => breaks

@[simp] theorem folded_nil : folded [] = [] := rfl

/-- White space without a break stands for itself. -/
theorem folded_of_no_break {run : List Char} (h : ∀ c ∈ run, isBreak c = false) :
    folded run = run := by
  have : run.filter isBreak = [] := by
    rw [List.filter_eq_nil_iff]
    intro c hc
    simp [h c hc]
  simp [folded, this]

end GoldenFiles.Yaml
