import GoldenFiles.Discovery
import GoldenFiles.Report.Verdict

/-!
# The summary of a run

A summary is the reports of all cases and the names that were rejected.
Everything else about it is counted, never kept: how many cases passed, how
many failed, how many of those because of the setup, and the status of the run,
which is the worst thing that happened in it. Rejected names do not count.
-/

namespace GoldenFiles

/-- What became of one case. -/
structure CaseReport where
  id : CaseId
  input : Path
  artifacts : Artifacts
  verdict : Verdict
  /-- The exit code of the program, if it ran and ended by itself. It is
  reported and decides nothing. -/
  exitCode : Option Int
  elapsed : Duration
  deriving DecidableEq, Repr

/-- How a run went, from best to worst. -/
inductive Status where
  | allPassed
  | testFailures
  | infrastructureError
  deriving DecidableEq, Repr

namespace Status

/-- The exit code of the process. -/
def exitCode : Status → Nat
  | allPassed => 0
  | testFailures => 1
  | infrastructureError => 2

/-- The word for a status in a document. -/
def word : Status → String
  | allPassed => "all_passed"
  | testFailures => "test_failures"
  | infrastructureError => "infrastructure_error"

end Status

/-- Everything that one run produced. -/
structure Summary where
  cases : List CaseReport := []
  rejected : List Rejected := []
  deriving DecidableEq, Repr

namespace Summary

/-- The number of cases. -/
def total (s : Summary) : Nat := s.cases.length

/-- The number of cases that passed. -/
def passed (s : Summary) : Nat := s.cases.countP (·.verdict.isPassed)

/-- The number of cases that failed. -/
def failed (s : Summary) : Nat := s.total - s.passed

/-- The number of cases that could not be judged. -/
def infrastructureErrors (s : Summary) : Nat :=
  s.cases.countP fun report => report.verdict.reason?.any (·.isInfrastructure)

/-- The worst thing that happened. -/
def status (s : Summary) : Status :=
  if 0 < s.infrastructureErrors then .infrastructureError
  else if 0 < s.failed then .testFailures
  else .allPassed

end Summary

end GoldenFiles
