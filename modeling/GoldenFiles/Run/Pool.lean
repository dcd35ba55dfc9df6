import GoldenFiles.Run.Case

/-!
# Running cases at the same time

A pool of workers runs several cases at once, and all of them see one file
system. What one case does is then no longer a function of the file system it
starts on, for others change it between two of its own calls to the system. A
`Task` is the sequence of these calls with nothing said about what happens in
between: each call changes the file system, looks at it, and goes on. A pool
takes one call of any of its tasks at a time, in any order, so every way in
which workers can come to share the cases among them is a run of the pool.

The tasks of cases whose executor is `scripted` are spelled out here. Making the
directories of an output is not one call but many, and it can meet another case
doing the same at every one of them.
-/

namespace GoldenFiles

/-- A computation that makes one call to the system after the other. -/
inductive Task (α : Type) where
  | done (result : α)
  /-- A call changes the file system; what it has seen decides how to go on. -/
  | call (change : FileSystem → FileSystem) (next : FileSystem → Task α)

namespace Task

variable {α β : Type}

/-- Runs a task to its end with nobody else around. -/
def run : Task α → FileSystem → α × FileSystem
  | done result, fs => (result, fs)
  | call change next, fs => (next fs).run (change fs)

/-- A task followed by another one. -/
def bind : Task α → (α → Task β) → Task β
  | done result, k => k result
  | call change next, k => call change fun fs => (next fs).bind k

/-- A task of a single call. -/
def once (f : FileSystem → α × FileSystem) : Task α :=
  call (fun fs => (f fs).2) fun fs => done (f fs).1

/-- A single call that fails or changes the file system. -/
def attempt (f : FileSystem → Except IoError FileSystem) : Task (Except IoError Unit) :=
  once fun fs =>
    match f fs with
    | .ok fs => (.ok (), fs)
    | .error e => (.error e, fs)

/-- A single call that only looks. -/
def look (f : FileSystem → α) : Task α := once fun fs => (f fs, fs)

/-- Gives up with an error unless a directory is there after all. -/
def unlessDirectory (dir : Path) (e : IoError) : Task (Except IoError Unit) :=
  (look (·.isDirectory dir)).bind fun is => done (if is then .ok () else .error e)

/-- Makes the first of some directories, each inside the next. -/
def makeNested : List Path → Task (Except IoError Unit)
  | [] => done (.error (.described "failed to create whole tree"))
  | dir :: above =>
      if dir.bytes = [] then done (.ok ())
      else (attempt fun fs => dir.access (fs.makeDirectory dir)).bind fun
        | .ok () => done (.ok ())
        | .error (.os .noEntry) => (makeNested above).bind fun
            | .error e => done (.error e)
            | .ok () => (attempt fun fs => (fs.makeDirectory dir).mapError .os).bind fun
                | .ok () => done (.ok ())
                | .error e => unlessDirectory dir e
        | .error e => unlessDirectory dir e

/-- Makes the directory of an output, if its path names one. -/
def makeParent (actual : Path) : Task (Except CaseError Unit) :=
  match actual.parent? with
  | none => done (.ok ())
  | some dir =>
      if dir.bytes = [] then done (.ok ())
      else (makeNested dir.ancestors).bind fun
        | .ok () => done (.ok ())
        | .error e => done (.error (.io dir e))

/-- Opens an output for writing, in a directory that is made first. -/
def openOutput (actual : Path) : Task (Except CaseError Location) :=
  (makeParent actual).bind fun
    | .error e => done (.error e)
    | .ok () => once fun fs =>
        match actual.access (fs.create actual) with
        | .ok (loc, fs) => (.ok loc, fs)
        | .error e => (.error (.io actual e), fs)

/-- Reads a file. -/
def read (p : Path) : Task (Except CaseError Bytes) :=
  look fun fs => (p.access (fs.read p)).mapError (.io p)

end Task

/-- The verdict on what comparing the outputs came to. -/
def Verdict.ofComparison : Except CaseError Content.Comparison → Verdict
  | .ok .equal => .passed
  | .ok (.differ mismatch) => .failed (.mismatch mismatch)
  | .error e => .failed (.ofError e)

/-- What a program does with an input: it fails, or it writes something and exits. -/
abbrev Script := Path → Except CaseError (Bytes × ExitCode)

/-- The executor that does as a script says. -/
def Executor.scripted (script : Script) : Executor := fun input actual fs =>
  match script input with
  | .error e => { result := .error e, files := fs }
  | .ok (output, code) =>
      match fs.openOutput actual with
      | (.error e, fs) => { result := .error e, files := fs }
      | (.ok loc, fs) => { result := .ok code, files := fs.fill loc output }

/-- A report on a case. -/
def TestCase.report (c : TestCase) (verdict : Verdict) (exitCode : ExitCode) : CaseReport :=
  ⟨c.id, c.input, c.artifacts, verdict, exitCode, .zero⟩

/-- The task of comparing the outputs of a case. The expected one is read first. -/
def TestCase.comparing (c : TestCase) : Task (Except CaseError Content.Comparison) :=
  (Task.read c.artifacts.expected).bind fun
    | .error e => .done (.error e)
    | .ok expected => (Task.read c.artifacts.actual).bind fun
        | .error e => .done (.error e)
        | .ok actual => .done (.ok (Content.compare actual expected))

/-- The task of running a case by a script and judging its output. -/
def TestCase.task (script : Script) (c : TestCase) : Task CaseReport :=
  if c.artifacts.actual.Same c.artifacts.expected then
    .done (c.report (.failed (sharedPath c.artifacts.expected)) none)
  else
    match script c.input with
    | .error e => .done (c.report (.failed (.ofError e)) none)
    | .ok (output, code) => (Task.openOutput c.artifacts.actual).bind fun
        | .error e => .done (c.report (.failed (.ofError e)) none)
        | .ok loc => (Task.once fun fs => ((), fs.fill loc output)).bind fun () =>
            c.comparing.bind fun comparison => .done (c.report (.ofComparison comparison) code)

/-- Tasks that share a file system. -/
structure Pool where
  tasks : List (Task CaseReport)
  files : FileSystem

namespace Pool

/-- One of the tasks makes its next call. -/
inductive Step : Pool → Pool → Prop where
  | call (before after : List (Task CaseReport)) (change : FileSystem → FileSystem)
      (next : FileSystem → Task CaseReport) (fs : FileSystem) :
      Step ⟨before ++ .call change next :: after, fs⟩ ⟨before ++ next fs :: after, change fs⟩

/-- A pool all of whose tasks are done, with these reports. -/
def finished (reports : List CaseReport) (fs : FileSystem) : Pool := ⟨reports.map .done, fs⟩

end Pool

end GoldenFiles
