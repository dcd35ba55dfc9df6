import GoldenFiles.Config.Settings
import GoldenFiles.Run.Case

/-!
# Running a suite

A run discovers the fixtures, keeps those that the filter lets through, and
runs their cases. Two things can end it before the first case: discovery, and
a host that does not start the workers. After that nothing can.
-/

namespace GoldenFiles

/-- Whether a text occurs in another one. -/
def occursIn (needle text : List Char) : Bool :=
  match text with
  | [] => needle.isEmpty
  | c :: rest => needle.isPrefixOf (c :: rest) || occursIn needle rest

/-- Whether a filter lets a case through. -/
def Settings.selects (s : Settings) (id : CaseId) : Bool :=
  match s.filter with
  | none => true
  | some needle => occursIn needle.toList id.text.toList

/-- The cases of a run, and the names that were rejected. Nothing is run. -/
def plan (s : Settings) (fs : FileSystem) (host : Host := {}) :
    Except RunError (List TestCase × List Rejected) :=
  match discover fs s.fixturesDir s.scheme host with
  | .error e => .error e
  | .ok found =>
      .ok ((found.fixtures.filter (s.selects ·.id)).map (.ofFixture s.outputDir s.scheme),
        found.rejected)

/-- Runs cases on some workers, if the host starts these. -/
def runOnWorkers (host : Host) (workers : Nat) (execute : Executor) (cases : List TestCase)
    (s : RunState) : Except RunError (List CaseReport × RunState) :=
  match host.refusal? workers cases.length with
  | some said => .error (.pool said)
  | none => .ok (runCases execute cases s)

/-- Runs all cases of a suite. -/
def runSuite (s : Settings) (execute : Executor) (state : RunState) (host : Host := {}) :
    Except RunError (Summary × RunState) :=
  match plan s state.files host with
  | .error e => .error e
  | .ok (cases, rejected) =>
      match runOnWorkers host (s.workers.count host) execute cases state with
      | .error e => .error e
      | .ok (reports, state) => .ok (⟨reports, rejected⟩, state)

end GoldenFiles
