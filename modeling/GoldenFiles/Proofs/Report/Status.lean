import GoldenFiles.Report.Summary
import Mathlib.Data.List.Basic

/-!
# The worst of all verdicts

The status of a run is counted, yet it is nothing else than the worst verdict:
its exit code is the largest severity that any case has. So it does not depend
on the order of the cases, and not on the rejected names at all.
-/

namespace GoldenFiles

/-- How much a verdict weighs: nothing, as a failure of the program under test,
or as a failure of the setup. -/
def Verdict.severity : Verdict → Nat
  | .passed => 0
  | .failed (.mismatch _) => 1
  | .failed (.timedOut _) => 1
  | .failed (.launch _) => 2
  | .failed (.io _) => 2

namespace Verdict

theorem severity_le (v : Verdict) : v.severity ≤ 2 := by
  cases v with
  | passed => exact Nat.zero_le 2
  | failed reason => cases reason <;> simp [severity]

theorem severity_eq_two_iff (v : Verdict) :
    v.severity = 2 ↔ v.reason?.any (·.isInfrastructure) = true := by
  cases v with
  | passed => simp [severity, reason?]
  | failed reason => cases reason <;> simp [severity, reason?, FailureReason.isInfrastructure]

theorem severity_pos_iff (v : Verdict) : 0 < v.severity ↔ v.isPassed = false := by
  cases v with
  | passed => simp [severity, isPassed]
  | failed reason => cases reason <;> simp [severity, isPassed]

end Verdict

namespace Summary

/-- The largest severity of a verdict. -/
def worst (s : Summary) : Nat := (s.cases.map fun report => report.verdict.severity).foldr max 0

theorem worst_le_iff (s : Summary) (n : Nat) :
    s.worst ≤ n ↔ ∀ report ∈ s.cases, report.verdict.severity ≤ n := by
  rw [worst]
  induction s.cases with
  | nil => simp
  | cons report cases ih =>
      rw [List.map_cons, List.foldr_cons, Nat.max_le, ih, List.forall_mem_cons]

/-! ## Counts -/

theorem failed_eq (s : Summary) : s.failed = s.cases.countP fun report =>
    !report.verdict.isPassed := by
  have hcount := List.length_eq_countP_add_countP (fun report : CaseReport =>
    report.verdict.isPassed) (l := s.cases)
  simp only [Bool.not_eq_true, Bool.decide_eq_false] at hcount
  rw [failed, total, passed]
  omega

theorem total_eq (s : Summary) : s.total = s.passed + s.failed := by
  have : s.passed ≤ s.total := List.countP_le_length
  rw [failed]
  omega

theorem infrastructureErrors_le_failed (s : Summary) : s.infrastructureErrors ≤ s.failed := by
  rw [failed_eq]
  refine List.countP_mono_left fun report _ h => ?_
  have hsevere := (Verdict.severity_eq_two_iff _).mpr h
  rw [(Verdict.severity_pos_iff _).mp (by omega)]
  rfl

theorem infrastructureErrors_pos_iff (s : Summary) :
    0 < s.infrastructureErrors ↔ ∃ report ∈ s.cases, report.verdict.severity = 2 := by
  rw [infrastructureErrors, List.countP_pos_iff]
  simp only [Verdict.severity_eq_two_iff]

theorem failed_pos_iff (s : Summary) :
    0 < s.failed ↔ ∃ report ∈ s.cases, 0 < report.verdict.severity := by
  rw [failed_eq, List.countP_pos_iff]
  simp only [Verdict.severity_pos_iff, Bool.not_eq_true']

/-! ## The exit code -/

theorem exitCode_le_iff (s : Summary) (n : Nat) :
    s.status.exitCode ≤ n ↔ ∀ report ∈ s.cases, report.verdict.severity ≤ n := by
  unfold status
  split
  · next hinfra =>
      obtain ⟨report, hmem, htwo⟩ := s.infrastructureErrors_pos_iff.mp hinfra
      constructor
      · intro h other _
        exact Nat.le_trans other.verdict.severity_le h
      · intro h
        have htwo' := h report hmem
        rw [htwo] at htwo'
        exact htwo'
  · next hinfra =>
      have hone : ∀ report ∈ s.cases, report.verdict.severity ≤ 1 := by
        intro report hmem
        have hle := report.verdict.severity_le
        have hne : report.verdict.severity ≠ 2 := fun h =>
          hinfra (s.infrastructureErrors_pos_iff.mpr ⟨report, hmem, h⟩)
        omega
      split
      · next hfailed =>
          obtain ⟨report, hmem, hpos⟩ := s.failed_pos_iff.mp hfailed
          constructor
          · intro h other hother
            exact Nat.le_trans (hone other hother) h
          · intro h
            exact Nat.le_trans hpos (h report hmem)
      · next hfailed =>
          refine iff_of_true (Nat.zero_le n) fun report hmem => ?_
          have hzero : ¬0 < report.verdict.severity := fun h =>
            hfailed (s.failed_pos_iff.mpr ⟨report, hmem, h⟩)
          omega

/-- The exit code is the largest severity. -/
theorem exitCode_status (s : Summary) : s.status.exitCode = s.worst := by
  refine Nat.le_antisymm ?_ ?_
  · exact (s.exitCode_le_iff _).mpr ((s.worst_le_iff _).mp (Nat.le_refl _))
  · exact (s.worst_le_iff _).mpr ((s.exitCode_le_iff _).mp (Nat.le_refl _))

/-- Cases in another order, beside whatever rejected names. -/
theorem worst_of_perm {s other : Summary} (h : other.cases.Perm s.cases) :
    other.worst = s.worst := by
  have hle : ∀ n, other.worst ≤ n ↔ s.worst ≤ n := by
    intro n
    rw [worst_le_iff, worst_le_iff]
    exact ⟨fun hall report hmem => hall report (h.mem_iff.mpr hmem),
      fun hall report hmem => hall report (h.mem_iff.mp hmem)⟩
  exact Nat.le_antisymm ((hle _).mpr (Nat.le_refl _)) ((hle _).mp (Nat.le_refl _))

end Summary

end GoldenFiles
