import GoldenFiles.Duration
import GoldenFiles.Host
import GoldenFiles.Naming.Scheme

/-!
# Settings

Everything a run needs to know, and the layers it comes from. A layer gives a
value to some of the settings and leaves the others alone; laying one over
settings replaces exactly those it gives. Settings are the defaults with the
layer of a file over them and the layer of a command line over that.
-/

namespace GoldenFiles

/-- What happens to the standard error of the program under test. -/
inductive StderrMode where
  | inherit
  | discard
  deriving DecidableEq, Repr

/-- The word for a mode. -/
def StderrMode.word : StderrMode → String
  | inherit => "inherit"
  | discard => "discard"

/-- The mode that a word names. -/
def StderrMode.ofWord? (word : String) : Option StderrMode :=
  [inherit, discard].find? (·.word = word)

/-- How many cases may run at the same time. -/
inductive Workers where
  | perCpu
  | exactly (n : Nat)
  deriving DecidableEq, Repr

/-- The number of workers on a host. -/
def Workers.count (host : Host) : Workers → Nat
  | perCpu => host.processors
  | exactly n => n

/-- The settings of a run. -/
structure Settings where
  fixturesDir : Path := .ofString "testcases/phase2"
  outputDir : Path := .ofString "output"
  program : Path := .ofString "./mypython.exe"
  /-- Arguments that go before the input path. -/
  programArgs : List String := []
  scheme : Scheme := {}
  /-- The number of workers; zero stands for one per processor. -/
  jobs : Nat := 1
  /-- The time limit of a case in seconds; zero stands for none. -/
  timeoutSecs : Nat := 10
  /-- Only cases whose identifier contains this text are run. -/
  filter : Option String := none
  stderr : StderrMode := .inherit
  deriving DecidableEq, Repr

namespace Settings

/-- The time limit of a case. -/
def timeout? (s : Settings) : Option Duration :=
  if s.timeoutSecs = 0 then none else some ⟨s.timeoutSecs, 0⟩

/-- The number of workers. -/
def workers (s : Settings) : Workers :=
  if s.jobs = 0 then .perCpu else .exactly s.jobs

end Settings

/-- Values for some of the settings. -/
structure Layer where
  fixturesDir : Option Path := none
  outputDir : Option Path := none
  program : Option Path := none
  programArgs : Option (List String) := none
  inputMarker : Option String := none
  outputMarker : Option String := none
  inputExtension : Option String := none
  expectedExtension : Option String := none
  jobs : Option Nat := none
  timeoutSecs : Option Nat := none
  /-- A layer can also take a filter away. -/
  filter : Option (Option String) := none
  stderr : Option StderrMode := none
  deriving DecidableEq, Repr

/-- Settings with the values of a layer where it gives one. -/
def Layer.over (layer : Layer) (s : Settings) : Settings :=
  { fixturesDir := layer.fixturesDir.getD s.fixturesDir
    outputDir := layer.outputDir.getD s.outputDir
    program := layer.program.getD s.program
    programArgs := layer.programArgs.getD s.programArgs
    scheme :=
      { inputMarker := layer.inputMarker.getD s.scheme.inputMarker
        outputMarker := layer.outputMarker.getD s.scheme.outputMarker
        inputExtension := layer.inputExtension.getD s.scheme.inputExtension
        expectedExtension := layer.expectedExtension.getD s.scheme.expectedExtension }
    jobs := layer.jobs.getD s.jobs
    timeoutSecs := layer.timeoutSecs.getD s.timeoutSecs
    filter := layer.filter.getD s.filter
    stderr := layer.stderr.getD s.stderr }

end GoldenFiles
