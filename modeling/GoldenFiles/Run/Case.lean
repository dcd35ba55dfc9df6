import GoldenFiles.Report.Summary
import GoldenFiles.Run.Executor
import GoldenFiles.Sorting

/-!
# Running one case

A case is run by producing its actual output and comparing that with the
expected one. It cannot fail: every error on the way is the case's verdict. If
both outputs have the same path the program is not even started, for it would
overwrite what it is to be compared with.

No time passes here, so a case takes none, and nothing is logged.
-/

namespace GoldenFiles

/-- A case whose files are known. -/
structure TestCase where
  id : CaseId
  input : Path
  artifacts : Artifacts
  deriving DecidableEq, Repr

/-- The case of a fixture. -/
def TestCase.ofFixture (outputDir : Path) (scheme : Scheme) (fixture : Fixture) : TestCase :=
  { id := fixture.id
    input := fixture.input
    artifacts := scheme.artifacts fixture.id fixture.input outputDir }

/-- What a run has done so far. -/
structure RunState where
  files : FileSystem
  /-- The inputs that a program was started for, in order. -/
  started : List Path := []
  /-- What programs wrote to the standard error of the run. -/
  stderr : Bytes := []

/-- Compares the files of a case. The expected one is read first. -/
def FileSystem.compareFiles (fs : FileSystem) (artifacts : Artifacts) :
    Except CaseError Content.Comparison :=
  match artifacts.expected.access (fs.read artifacts.expected) with
  | .error e => .error (.io artifacts.expected e)
  | .ok expected =>
      match artifacts.actual.access (fs.read artifacts.actual) with
      | .error e => .error (.io artifacts.actual e)
      | .ok actual => .ok (Content.compare actual expected)

/-- The verdict on the files that a program left behind. -/
def FileSystem.judge (fs : FileSystem) (artifacts : Artifacts) : Verdict :=
  match fs.compareFiles artifacts with
  | .ok .equal => .passed
  | .ok (.differ mismatch) => .failed (.mismatch mismatch)
  | .error e => .failed (.ofError e)

/-- What a case is told whose outputs share one path. -/
def sharedPath (expected : Path) : FailureReason :=
  .io (expected.display ++ ": actual and expected output share one path")

/-- Runs one case and judges its output. -/
def runCase (execute : Executor) (c : TestCase) (s : RunState) : CaseReport × RunState :=
  let report (verdict : Verdict) (exitCode : ExitCode) : CaseReport :=
    ⟨c.id, c.input, c.artifacts, verdict, exitCode, .zero⟩
  if c.artifacts.actual.Same c.artifacts.expected then
    (report (.failed (sharedPath c.artifacts.expected)) none, s)
  else
    let done := execute c.input c.artifacts.actual s.files
    let s : RunState := ⟨done.files, s.started ++ [c.input], s.stderr ++ done.stderr⟩
    match done.result with
    | .error e => (report (.failed (.ofError e)) none, s)
    | .ok code => (report (s.files.judge c.artifacts) code, s)

/-- Runs cases one after the other. -/
def runInOrder (execute : Executor) : List TestCase → RunState → List CaseReport × RunState
  | [], s => ([], s)
  | c :: cases, s =>
      let (report, s) := runCase execute c s
      let (reports, s) := runInOrder execute cases s
      (report :: reports, s)

/-- Runs cases, whose workers are there, and reports on them by identifier. -/
def runCases (execute : Executor) (cases : List TestCase) (s : RunState) :
    List CaseReport × RunState :=
  let (reports, s) := runInOrder execute cases s
  (sortedBy CaseReport.id reports, s)

end GoldenFiles
