import GoldenFiles.Run.Subprocess
import GoldenFiles.Shell.Run

/-!
# Starting programs

The launcher that needs nothing from outside: a program is found as a shell
finds it and run to its end, or to the time limit, on the file system alone.
What it left running in the background is run on until just after its own end,
because that is all that can be seen of it.
-/

namespace GoldenFiles.Shell

open Program (Text Process)

/-- The variables that a program is started with. -/
def environment : List (Text × Text) :=
  [("HOME", "/root"), ("LANG", "C.UTF-8"), ("NO_COLOR", "1"),
    ("PATH", "/usr/local/sbin:/usr/local/bin:/usr/sbin:/usr/bin:/sbin:/bin")].map
    fun (name, value) => (name.toList, value.toList)

/-- A shell, or the process that becomes another program, before it runs. -/
def State.initial (name : Text) (deadline : Option Nat) (output : Location) (fs : FileSystem) :
    State :=
  let here := physicalPath fs.here
  { process := { files := fs, deadline := deadline, outputFile := some output }
    name := name
    here := here
    bindings := (("PWD".toList, here) :: environment).map fun (name, value) =>
      { name := name, value := some value, exported := true } }

/-- The steps that a program may take. -/
def maxSteps : Nat := 4000000

/-- How a process that has run came to its end. -/
def State.ending (s : State) : Ending :=
  match s.flow with
  | .stopped => .outlasted
  | .killed _ => .exited none
  | _ => if s.process.isOver then .outlasted else .exited (some s.status)

/-- A time as a process counts it. -/
def nanosecondsIn (d : Duration) : Nat := d.seconds * Nat.pow 10 9 + d.nanos

/-- Starts a program and runs it to its end. -/
def launch : Launcher := fun program arguments limit output fs =>
  let name := Program.ofBytes program.bytes
  let start := State.initial name (limit.map nanosecondsIn) output fs
  let found := (Program.programPath start.process Program.usualDirectories name).bind
    (Program.image start.process)
  match found with
  | .error e => .refused (.os e)
  | .ok (image, before) =>
      let ended := runImage maxSteps name image (before ++ arguments.map Program.ofBytes) start
      let process := (finish maxSteps (some (ended.process.clock + grace)) ended).process.settled
      .ran ended.ending (Program.toBytes (process.written .error))
        { process.files with here := fs.here }

end GoldenFiles.Shell
