import GoldenFiles.Error
import GoldenFiles.FileSystem.Update

/-!
# Producing an output

An executor takes the input of a case and produces its actual output. All that
is known about it is what it leaves behind: an exit code or an error, a file
system, and what it wrote to the standard error it was given. Judging a case
depends on no more than that, so any executor will do, from a real program to a
table of prepared outputs.
-/

namespace GoldenFiles

/-- The exit code of a program; there is none if a signal ended it. -/
abbrev ExitCode := Option Int

/-- What an executor leaves behind. -/
structure Invocation where
  result : Except CaseError ExitCode
  files : FileSystem
  /-- What appeared on standard error. -/
  stderr : Bytes := []

/-- Produces the actual output of the case with the given input. -/
abbrev Executor := (input actual : Path) → FileSystem → Invocation

/-- Makes the directory of an output, if its path names one. -/
def FileSystem.makeParent (fs : FileSystem) (actual : Path) : Except CaseError Unit × FileSystem :=
  match actual.parent? with
  | none => (.ok (), fs)
  | some dir =>
      if dir.bytes = [] then (.ok (), fs)
      else
        match fs.makeDirectories dir with
        | (.ok (), fs) => (.ok (), fs)
        | (.error e, fs) => (.error (.io dir e), fs)

/-- Opens an output for writing, empty and in a directory that exists. -/
def FileSystem.openOutput (fs : FileSystem) (actual : Path) :
    Except CaseError Location × FileSystem :=
  match fs.makeParent actual with
  | (.error e, fs) => (.error e, fs)
  | (.ok (), fs) =>
      match actual.access (fs.create actual) with
      | .ok (loc, fs) => (.ok loc, fs)
      | .error e => (.error (.io actual e), fs)

/-- A prepared outcome for one input. -/
inductive Prepared where
  | fails (error : CaseError)
  /-- Writes the output, if there is one to write, and exits. -/
  | exits (output : Option Bytes) (code : ExitCode)
  deriving DecidableEq, Repr

/-- The executor that looks up the file name of its input in a table. -/
def Executor.prepared (outputs : List (Name × Prepared)) : Executor := fun input actual fs =>
  match outputs.lookup (input.fileName?.getD []) with
  | none => { result := .error (.launch (.ofString "fake") (.described "no canned output"))
              files := fs }
  | some (.fails e) => { result := .error e, files := fs }
  | some (.exits none code) => { result := .ok code, files := fs }
  | some (.exits (some output) code) =>
      match fs.openOutput actual with
      | (.error e, fs) => { result := .error e, files := fs }
      | (.ok loc, fs) => { result := .ok code, files := fs.fill loc output }

end GoldenFiles
