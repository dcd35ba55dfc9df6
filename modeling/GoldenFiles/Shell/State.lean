import GoldenFiles.Program.Image
import GoldenFiles.Shell.Command
import GoldenFiles.Shell.Setting

/-!
# The state of a shell

A shell is a process with variables, arguments and functions, the status of the
last command, and what that command means for those behind it. Commands that run
in the background are only noted down. They are run when they are waited for, or
when the shell ends, and then only for as long as they would have run by that
time.
-/

namespace GoldenFiles.Shell

open Program (Text Process ofString)

/-- What happens after a command. -/
inductive Flow where
  | next
  | leaveLoop (levels : Nat)
  | nextRound (levels : Nat)
  | leaveFunction
  | leaveShell
  /-- A mistake ends the shell, unless it was made by a command that may fail. -/
  | abandoned
  | killed (signal : Nat)
  /-- The time limit is reached. -/
  | stopped
  deriving DecidableEq, Repr

/-- A variable. -/
structure Binding where
  name : Text
  value : Option Text := none
  /-- Programs are given the variable. -/
  exported : Bool := false
  /-- The value stays what it is. -/
  fixed : Bool := false
  deriving DecidableEq, Repr

/-- Where the options of arguments have been read up to: the next argument, and a
place in the one before it, if that is not done. -/
structure OptionPlace where
  index : Nat := 1
  offset : Option Nat := none
  deriving DecidableEq, Repr

/-- What a shell knows, apart from the process that it is and the ones it has started. -/
structure Scene where
  /-- The name of the script. -/
  name : Text
  /-- The command of the shell that runs, as far as mistakes name it. -/
  caller : Option Text := none
  arguments : List Text := []
  bindings : List Binding := []
  functions : List (Text × Command) := []
  aliases : List (Text × Text) := []
  settings : List Setting := []
  status : Nat := 0
  /-- The line of the command that is run. -/
  line : Nat := 1
  /-- The line up to which the script has been read. -/
  reached : Nat := 1
  number : Nat := 4200
  lastJob : Option Nat := none
  /-- How many functions are being run, each called by the next. -/
  depth : Nat := 0
  /-- How many scripts are being run in the midst of others. -/
  scripts : Nat := 0
  /-- How many loops are being run in this function. -/
  loops : Nat := 0
  /-- The variables that get their values back when the function ends. -/
  kept : List (Text × Option Binding) := []
  /-- The settings that are as before when the function ends. -/
  keptSettings : Option (List Setting) := none
  /-- What is done on signals, and when the shell ends. -/
  traps : List (Nat × Text) := []
  /-- The status before what is done on a signal, while it is done. -/
  trapStatus : Option Nat := none
  optionPlace : OptionPlace := {}
  /-- The path of the current directory, as the script has come there. -/
  here : Text := []
  /-- The programs that were looked for and found. -/
  found : List Text := []
  /-- The rights that new files do not have. -/
  mask : Nat := 18
  /-- The shells above this one that wait for it. -/
  above : List Nat := []

/-- A command in the background, as a shell that still has to run it. -/
structure Job where
  number : Nat
  /-- Its place among the jobs of the shell, from one on; none, if it was started by
  a part of the shell that has ended. -/
  place : Option Nat
  body : Command
  scene : Scene
  /-- The current directory. -/
  directory : Location
  /-- Where its descriptors lead. -/
  channels : List (Nat × Nat)
  /-- When it goes on. -/
  clock : Nat
  /-- The time up to which it does not end. -/
  tried : Nat := 0
  /-- The signals that were sent to it, each with its time. -/
  arrivals : List (Nat × Nat) := []

/-- A command that has ended in the background. -/
structure PastJob where
  number : Nat
  place : Option Nat
  status : Nat
  /-- The signal that has ended it. -/
  signal : Option Nat := none
  /-- How many pipes it had. -/
  pipes : Nat := 0
  /-- The shell knows that it has ended. -/
  known : Bool := true
  /-- It was waited for. -/
  waited : Bool := false
  deriving DecidableEq, Repr

/-- A job that the shell knows has ended. -/
def PastJob.noticed (job : PastJob) : PastJob := { job with known := true }

/-- A job that was waited for. -/
def PastJob.afterWait (job : PastJob) : PastJob := { job with known := true, waited := true }

/-- A shell that runs a script. -/
structure State extends Scene where
  process : Process
  flow : Flow := .next
  /-- Numbers from here on are free for pipes and processes. -/
  nextNumber : Nat := 4201
  jobs : List Job := []
  /-- The jobs that have ended. -/
  past : List PastJob := []
  /-- The signals that will be sent to this shell, each with its time. -/
  arrivals : List (Nat × Nat) := []
  /-- Whether the status of the command is looked at by the script. -/
  guarded : Bool := false
  /-- Whether the shell is a process of its own, and not a part of another one. -/
  isProcess : Bool := true
  /-- The signals that were sent to shells that wait, by their numbers. -/
  signals : List (Nat × Nat) := []
  /-- Something could not be printed. -/
  muted : Bool := false
  /-- The status of the last command whose output stands in a word of this one. -/
  captured : Nat := 0

/-- A number as a shell writes it. -/
def decimal (n : Nat) : Text := Nat.toDigits 10 n

namespace State

/-- Whether a setting is on. -/
def has (s : State) (setting : Setting) : Bool := s.settings.contains setting

/-! ## What commands leave behind -/

/-- Writes text to the error stream. -/
def tell (s : State) (text : Text) : State := { s with process := s.process.tell 2 text }

/-- A line on the error stream that says where the script is. -/
def complain (s : State) (text : Text) : State :=
  let place := s.name ++ [':', ' '] ++ decimal s.line ++ [':', ' ']
  let caller := match s.caller with
    | some caller => caller ++ [':', ' ']
    | none => []
  s.tell (place ++ caller ++ text ++ ['\n'])

/-- Ends a command with a status. -/
def done (s : State) (status : Nat) : State := { s with status := status }

/-- Ends a command that failed, with a line that says why. -/
def failed (s : State) (status : Nat) (text : Text) : State := (s.complain text).done status

/-- Ends the shell because of a mistake. -/
def giveUp (s : State) (text : Text) : State :=
  if s.flow = .next then { s.failed 2 text with flow := .abandoned } else s

/-- Prints text. Whether that could be done is looked at when the command has
ended. -/
def print (s : State) (text : Text) : State :=
  if text = [] then s
  else
    match s.process.write 1 text with
    | .ok process => { s with process := process }
    | .error _ => { s with muted := true }

/-- Prints a line. -/
def printLine (s : State) (line : Text) : State := s.print (line ++ ['\n'])

/-! ## Variables -/

/-- A variable. -/
def binding? (s : State) (name : Text) : Option Binding := s.bindings.find? (·.name = name)

/-- The value of a variable. -/
def value? (s : State) (name : Text) : Option Text := (s.binding? name).bind (·.value)

/-- Puts a variable in the place of the one of its name. -/
def bind (s : State) (b : Binding) : State :=
  { s with bindings := b :: s.bindings.filter (·.name ≠ b.name) }

/-- Changes a variable, which is new if there is none of its name. -/
def rebind (s : State) (name : Text) (change : Binding → Binding) : State :=
  s.bind (change ((s.binding? name).getD { name := name }))

/-- Whether the value of a variable stays what it is. -/
def isFixed (s : State) (name : Text) : Bool := (s.binding? name).any (·.fixed)

/-- What is said about a value for a variable that has to keep its own. -/
def fixedMessage (name : Text) : Text := name ++ ofString ": is read only"

/-- The name of the variable that says where options have been read up to. -/
def optionIndexName : Text := "OPTIND".toList

/-- The number that a text is: decimal, not negative, and not too large. Blanks may
stand on both sides. -/
def count? (text : Text) : Option Nat :=
  let read := Program.readNumber false text
  if read.rest = text ∨ !read.rest.all Program.isSpace ∨ Nat.pow 2 31 ≤ read.magnitude then none
  else if read.negative ∧ read.magnitude ≠ 0 then none
  else some read.magnitude

/-- What is said about a text that is no number. -/
def illegalNumber (text : Text) : Text := ofString "Illegal number: " ++ text

/-- Reads options from an argument on. -/
def readOptionsFrom (s : State) (value : Text) : State :=
  match count? value with
  | some index => { s with optionPlace := { index := if index = 0 then 1 else index } }
  | none => s.giveUp (illegalNumber value)

/-- Gives a variable a value. -/
def set (s : State) (name value : Text) : State :=
  if s.isFixed name then s.giveUp (fixedMessage name)
  else
    let s := s.rebind name fun b =>
      { b with value := some value, exported := b.exported || s.has .allexport }
    if name = optionIndexName then s.readOptionsFrom value else s

/-- Takes a variable away. -/
def unset (s : State) (name : Text) : State :=
  if s.isFixed name then s.giveUp (fixedMessage name)
  else
    let s := { s with bindings := s.bindings.filter (·.name ≠ name) }
    if name = optionIndexName then s.readOptionsFrom [] else s

/-- Puts a variable back to what it was. -/
def restore (s : State) (name : Text) (before : Option Binding) : State :=
  match before with
  | some b => s.bind b
  | none => { s with bindings := s.bindings.filter (·.name ≠ name) }

/-- The characters that separate fields. -/
def separators (s : State) : Text := (s.value? ['I', 'F', 'S']).getD [' ', '\t', '\n']

/-- Where programs are looked for. -/
def searchPath (s : State) : Text :=
  (s.value? "PATH".toList).getD Program.usualDirectories

/-- The value of a parameter that is one text. -/
def parameter? (s : State) (name : Text) : Option Text :=
  match name with
  | ['#'] => some (decimal s.arguments.length)
  | ['?'] => some (decimal s.status)
  | ['$'] => some (decimal s.number)
  | ['!'] => s.lastJob.map decimal
  | ['-'] => some (Setting.letters s.settings)
  | ['@'] | ['*'] => some (Program.spaced s.arguments)
  | _ =>
      if !name.all Char.isDigit then s.value? name
      else
        match Program.valueOf 10 name with
        | 0 => some s.name
        | n + 1 => s.arguments[n]?

/-! ## Shells within shells -/

/-- The shells from this one up to the first one, which get the signals that are sent
to all of them. What has started the first one is not one of them. -/
def group (s : State) : List Nat := (s.number :: s.above).dropLast

/-- A shell of its own that starts from here. -/
def child (s : State) : State :=
  { s with
    jobs := []
    past := []
    arrivals := []
    traps := s.traps.filter (·.2 = [])
    isProcess := false }

/-- Whether a place among the jobs is taken. -/
def takes (s : State) (place : Nat) : Bool :=
  s.jobs.any (·.place = some place) || s.past.any (·.place = some place)

/-- The first place among the jobs that is free, or was waited for. -/
def nextPlace (s : State) : Nat :=
  let isFree (place : Nat) : Bool :=
    !s.takes place || s.past.any fun job => job.place = some place && job.waited
  ((List.range (s.jobs.length + s.past.length + 1)).map (· + 1)).find? isFree |>.getD 1

/-- The jobs that have ended, after a process was started: it takes the next place. -/
def pastAfterStart (s : State) : List PastJob := s.past.filter (·.place ≠ some s.nextPlace)

/-- The jobs of a part of the shell that has ended. -/
def orphans (ended : State) : List Job := ended.jobs.map fun job => { job with place := none }

/-- A shell after one that started from it has ended. -/
def resume (s ended : State) : State :=
  let jobs := s.jobs ++ ended.orphans
  let process :=
    { ended.process with
      files := { ended.process.files with here := s.process.files.here }
      channels := s.process.channels }
  { s with
    process := if jobs.isEmpty then process.forget s.process.nextHandle else process
    status := ended.status % 256
    flow := match ended.flow with
      | .stopped => .stopped
      | .killed signal => .killed signal
      | _ => s.flow
    nextNumber := ended.nextNumber
    signals := ended.signals
    jobs := jobs
    past := s.pastAfterStart }

end State

end GoldenFiles.Shell
