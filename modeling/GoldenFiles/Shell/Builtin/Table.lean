import GoldenFiles.Shell.Builtin.Description
import GoldenFiles.Shell.Builtin.Directory
import GoldenFiles.Shell.Builtin.Input
import GoldenFiles.Shell.Builtin.Print
import GoldenFiles.Shell.Builtin.Variable
import GoldenFiles.Shell.Signal
import GoldenFiles.Shell.Test

/-!
# All commands that the shell carries out itself

A few of them run other commands. Those are only named here.
-/

namespace GoldenFiles.Shell

open Program (Text ofString)

/-- What is to be known about a command of the shell before it is run. -/
structure Nature where
  /-- A mistake in it ends the shell, and so does one in its redirections. Values
  that it is given for variables stay. -/
  special : Bool := false
  /-- Its arguments may be names and values for them. -/
  givesValues : Bool := false
  deriving DecidableEq, Repr

/-- The commands of the shell. -/
def natures : List (String × Nature) :=
  ([":", ".", "break", "continue", "eval", "exec", "exit", "return", "set", "shift", "times",
    "trap", "unset"].map fun name => (name, { special := true })) ++
  (["export", "readonly", "local"].map fun name =>
    (name, { special := true, givesValues := true })) ++
  [("alias", { givesValues := true })] ++
  (["bg", "cd", "chdir", "command", "echo", "false", "fg", "getopts", "hash", "jobs", "kill",
    "printf", "pwd", "read", "test", "[", "true", "type", "ulimit", "umask", "unalias",
    "wait"].map fun name => (name, { special := false }))

/-- The command of a name, as far as it is to be known. -/
def nature? (name : Text) : Option Nature :=
  (natures.find? fun entry => entry.1.toList = name).map Prod.snd

/-- Whether a command of the shell is one whose mistakes end it. -/
def special? (name : Text) : Option Bool := (nature? name).map (·.special)

/-- Carries out a test. -/
def testBuiltin : Builtin := fun arguments s =>
  match test s.process arguments with
  | .ok answer => s.done (if answer then 0 else 1)
  | .error why => s.giveUp why

/-- Carries out a test between brackets. -/
def bracketBuiltin : Builtin := fun arguments s =>
  if arguments.getLast? = some [']'] then testBuiltin arguments.dropLast s
  else s.giveUp (ofString "missing ]")

/-- Leaves so many loops, or goes on with their next rounds. -/
def leaving (flow : Nat → Flow) : Builtin := fun arguments s =>
  withCount (fun _ => 1) (fun n s =>
    if n = 0 then s.giveUp (State.illegalNumber (arguments.headD []))
    else if s.loops = 0 then s.done 0
    else { s.done 0 with flow := flow (min n s.loops) }) arguments s

/-- The status that a shell ends with if no other one is given. -/
def State.endStatus (s : State) : Nat := s.trapStatus.getD s.status

/-- Ends the shell. -/
def exitBuiltin : Builtin := withCount State.endStatus fun n s =>
  { s.done (n % 256) with flow := .leaveShell }

/-- Ends a function, or a script. -/
def returnBuiltin : Builtin := withCount (·.status) fun n s =>
  { s.done n with flow := .leaveFunction }

/-- Takes the trap for a signal away. -/
def State.untrap (s : State) (signal : Nat) : State :=
  { s with traps := s.traps.filter (·.1 ≠ signal) }

/-- Says what is done on signals. -/
def trap : Builtin := withOptions "" fun _ arguments s =>
  let line (entry : Nat × Text) : Text :=
    "trap -- ".toList ++ reusable entry.2 ++ ' ' :: signalName entry.1 ++ ['\n']
  let put (action : Option Text) : List Text → State → State :=
    let rec go : List Text → State → State
      | [], s => s
      | name :: names, s =>
          match signal? name with
          | none => (s.remark "trap" name ": bad trap").done 1
          | some signal =>
              let s := s.untrap signal
              go names (match action with
                | some action => { s with traps := (signal, action) :: s.traps }
                | none => s)
    go
  let s := s.done 0
  match arguments with
  | [] => s.print ((sortedBy Prod.fst s.traps).flatMap line)
  | [name] => put none [name] s
  | action :: names => put (if action = ['-'] then none else some action) names s

/-- Shows the limits on what the shell may use, of which there are none. -/
def ulimit : Builtin := withOptions "HSatfdsmcnpvwrl" fun _ words s =>
  if words = [] then (s.printLine "unlimited".toList).done 0 else s.done 0

/-- The numbers of the jobs, the newest one first. -/
def State.jobNumbers (s : State) : List Nat :=
  let own := s.jobs.filter (·.place.isSome)
  let past := s.past.filter (·.place.isSome)
  sortedBy (fun n => s.nextNumber - n) (own.map (·.number) ++ past.map (·.number))

/-- The number of the process that a word names: by its number, or as a job. -/
def State.jobNumber (s : State) (word : Text) : Except Text Nat :=
  let atPlace (place : Nat) : Option Nat :=
    ((s.jobs.find? (·.place = some place)).map (·.number)).or
      ((s.past.find? (·.place = some place)).map (·.number))
  let found (n : Option Nat) (otherwise : Text) : Except Text Nat :=
    match n with
    | some n => .ok n
    | none => .error otherwise
  let absent := ofString "No such job: " ++ word
  match word with
  | ['%'] | ['%', '%'] | ['%', '+'] => found s.jobNumbers.head? (ofString "No current job")
  | ['%', '-'] => found s.jobNumbers.tail.head? (ofString "No previous job")
  | '%' :: digits =>
      if digits.all Char.isDigit then found (atPlace (Program.valueOf 10 digits)) absent
      else .error absent
  | _ => found (State.count? word) (State.illegalNumber word)

/-- Goes on with a job that was stopped; there are none. -/
def resumeJob : Builtin := withOptions "" fun _ words s =>
  let word := words.headD ['%']
  let shown := words.headD (ofString "(null)")
  match s.jobNumber word with
  | .ok _ =>
      if word.head? = some '%' then
        s.giveUp (ofString "job " ++ shown ++ ofString " not created under job control")
      else s.giveUp (ofString "No such job: " ++ word)
  | .error why =>
      s.giveUp (if word.head? = some '%' then why else ofString "No such job: " ++ word)

/-- The line about a job. -/
def State.jobLine (s : State) (number : Nat) : Text :=
  let line (place : Option Nat) (pipes : Nat) (text : Text) : Text :=
    let mark :=
      if s.jobNumbers.head? = some number then '+'
      else if s.jobNumbers.tail.head? = some number then '-'
      else ' '
    let front := '[' :: decimal (place.getD 0) ++ [']', ' ', mark, ' '] ++ text
    front ++ List.replicate (33 - front.length) ' ' ++
      (List.replicate pipes [' ', '|', ' ']).flatten
  match s.jobs.find? (·.number = number), s.past.find? (·.number = number) with
  | some job, _ => line job.place job.body.pipes (ofString "Running")
  | none, none => []
  | none, some job =>
      line job.place job.pipes (match job.signal, job.status with
        | some signal, _ => (notice signal).dropLast
        | none, 0 => ofString "Done"
        | none, status => ofString "Done(" ++ decimal status ++ [')'])

/-- Lists jobs, all of them if none are named, the newest one first. One that has
ended is not listed again. -/
def listJobs : Builtin := withOptions "lp" fun _ words s =>
  let numbers : Except Text (List Nat) :=
    if words = [] then .ok s.jobNumbers else words.mapM s.jobNumber
  match numbers with
  | .error why => s.giveUp why
  | .ok numbers =>
      let list (s : State) (number : Nat) : State :=
        { s.printLine (s.jobLine number) with past := s.past.filter (·.number ≠ number) }
      numbers.foldl list ({ s with past := s.past.map PastJob.noticed }.done 0)

/-- Shows how much time was used, which is too little to be seen. -/
def times : Builtin := fun _ s =>
  let line := "0m0.000000s 0m0.000000s".toList
  ((s.printLine line).printLine line).done 0

/-- The commands that run no others. -/
def builtins : List (String × Builtin) :=
  [(":", fun _ s => s.done 0), ("true", fun _ s => s.done 0), ("false", fun _ s => s.done 1),
    ("echo", echo), ("printf", printf), ("test", testBuiltin), ("[", bracketBuiltin),
    ("read", readBuiltin), ("getopts", getopts), ("set", setBuiltin), ("shift", shift),
    ("cd", changeDirectory), ("chdir", changeDirectory), ("pwd", printDirectory),
    ("export", exportBuiltin), ("readonly", readonlyBuiltin), ("local", localBuiltin),
    ("unset", unset), ("trap", trap), ("umask", umask), ("ulimit", ulimit), ("times", times),
    ("exit", exitBuiltin), ("return", returnBuiltin), ("break", leaving .leaveLoop),
    ("continue", leaving .nextRound), ("alias", aliasBuiltin), ("unalias", unalias),
    ("type", typeBuiltin special?), ("hash", hashBuiltin special?), ("fg", resumeJob),
    ("bg", resumeJob), ("jobs", listJobs)]

/-- The command of a name that runs no others. -/
def builtin? (name : Text) : Option Builtin :=
  (builtins.find? fun entry => entry.1.toList = name).map Prod.snd

end GoldenFiles.Shell
