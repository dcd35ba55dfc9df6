import GoldenFiles.Config.Settings
import GoldenFiles.Run.Executor

/-!
# Running a real program

The program under test gets its arguments and the input path, and what it
writes to standard output becomes the actual output. The file is opened before
the program is started, so whatever an earlier run left there is gone in any
case: after a program that could not be started it is empty.

How a program is started is left open. A launcher is a function, which may look
at and change the file system as it likes; everything else about the program is
what it answers.
-/

namespace GoldenFiles

/-- How a program that was started came to its end. -/
inductive Ending where
  | exited (code : ExitCode)
  /-- It was still running at the time limit and was stopped. -/
  | outlasted
  /-- Waiting for it failed, so its end is not known. -/
  | lost (source : IoError)
  deriving DecidableEq, Repr

/-- What comes of starting a program. -/
inductive Launch where
  | refused (source : IoError)
  | ran (ending : Ending) (stderr : Bytes) (files : FileSystem)

/-- Starts a program with arguments and a time limit, its standard output open
on a file that is empty, and waits for it. What it writes there is in the file
afterwards. -/
abbrev Launcher :=
  (program : Path) → (args : List Bytes) → (limit : Option Duration) → (output : Location) →
    FileSystem → Launch

/-- What is said of a program or an argument that holds a NUL byte. The system
could not tell where it ends. -/
def nulInArgument : IoError := .described "nul byte found in provided data"

/-- What a case is told about the end of its program. -/
def Ending.result (program : Path) (limit : Option Duration) :
    Ending → Except CaseError ExitCode
  | exited code => .ok code
  | outlasted => .error (.timedOut (limit.getD .zero))
  | lost source => .error (.io program source)

/-- The executor that starts a program. -/
def Executor.subprocess (launch : Launcher) (program : Path) (args : List String)
    (limit : Option Duration) (stderr : StderrMode) : Executor := fun input actual fs =>
  match fs.openOutput actual with
  | (.error e, fs) => { result := .error e, files := fs }
  | (.ok loc, fs) =>
      let args := args.map Utf8.encode ++ [input.bytes]
      let launched :=
        if (program.bytes :: args).any holdsNul then .refused nulInArgument
        else launch program args limit loc fs
      match launched with
      | .refused source => { result := .error (.launch program source), files := fs }
      | .ran ending errors fs =>
          { result := ending.result program limit
            files := fs
            stderr := if stderr = .inherit then errors else [] }

/-- The executor that settings ask for. -/
def Settings.executor (s : Settings) (launch : Launcher) : Executor :=
  .subprocess launch s.program s.programArgs s.timeout? s.stderr

end GoldenFiles
