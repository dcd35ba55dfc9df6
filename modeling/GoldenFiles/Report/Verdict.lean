import GoldenFiles.Content.Comparison
import GoldenFiles.Error
import GoldenFiles.Json

/-!
# Verdicts

Every case that was run has exactly one verdict. It passed, or it failed for a
reason, and the reasons are of two sorts: what the program did (it wrote other
lines, it took too long) and what kept it from being judged at all (it could
not be started, a file could not be read or written). The second sort points
at the setup and weighs more in the status of the run.
-/

namespace GoldenFiles

/-- Why a case failed. -/
inductive FailureReason where
  | mismatch (where_ : Content.Mismatch)
  | launch (message : String)
  | io (message : String)
  | timedOut (after : Duration)
  deriving DecidableEq, Repr

namespace FailureReason

/-- Whether a reason points at the setup and not at the program's output. -/
def isInfrastructure : FailureReason → Bool
  | launch _ | io _ => true
  | mismatch _ | timedOut _ => false

/-- The reason that an error of a case is. -/
def ofError : CaseError → FailureReason
  | e@(.launch ..) => launch e.message
  | e@(.io ..) => io e.message
  | .timedOut after => timedOut after

/-- The text of a reason. -/
def message : FailureReason → String
  | mismatch m =>
      "mismatch at line " ++ toString m.line ++ " (expected " ++
        toString m.expectedLines ++ " lines, got " ++ toString m.actualLines ++ ")"
  | launch message => "launch error: " ++ message
  | io message => "i/o error: " ++ message
  | timedOut after => "timed out after " ++ after.sentence ++ "s"

/-- The reason in a document. -/
def toJson : FailureReason → Json
  | mismatch m => .object
      [("kind", .string "mismatch"), ("line", .ofNat m.line),
        ("expected_lines", .ofNat m.expectedLines), ("actual_lines", .ofNat m.actualLines)]
  | launch message => .object [("kind", .string "launch"), ("message", .string message)]
  | io message => .object [("kind", .string "io"), ("message", .string message)]
  | timedOut after => .object
      [("kind", .string "timed_out"), ("after_secs", .number after.numeral)]

end FailureReason

/-- The outcome of one case. -/
inductive Verdict where
  | passed
  | failed (reason : FailureReason)
  deriving DecidableEq, Repr

namespace Verdict

/-- Whether a verdict is good. -/
def isPassed : Verdict → Bool
  | passed => true
  | failed _ => false

/-- The reason for a bad verdict. -/
def reason? : Verdict → Option FailureReason
  | passed => none
  | failed reason => some reason

/-- The word for a verdict. -/
def label : Verdict → String
  | passed => "passed"
  | failed _ => "failed"

/-- The verdict in a document. -/
def toJson : Verdict → Json
  | passed => .object [("status", .string "passed")]
  | failed reason => .object [("status", .string "failed"), ("reason", reason.toJson)]

end Verdict

end GoldenFiles
