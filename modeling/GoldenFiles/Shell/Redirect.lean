import GoldenFiles.Shell.Expansion

/-!
# Redirections

First all words of redirections are expanded, then one descriptor after the
other is made to lead somewhere else. What they led to before is known, so that
they can be put back. If something cannot be opened, those that come after it
stay as they are.
-/

namespace GoldenFiles.Shell

open Program (Text ofString)

/-- A redirection whose word has been expanded. -/
structure Target where
  descriptor : Nat
  direction : Direction
  text : Text
  deriving DecidableEq, Repr

/-- What is said of a file that cannot be opened. -/
def openFailure (reading : Bool) (file : Text) (e : Errno) : Text :=
  let absent := e = .noEntry ∨ e = .notDirectory
  let why :=
    if !absent then e.message else if reading then "No such file" else "Directory nonexistent"
  ofString (if reading then "cannot open " else "cannot create ") ++ file ++ ofString (": " ++ why)

/-- Whether a file is there that a shell does not overwrite. -/
def State.protects (s : State) (file : Text) : Bool :=
  s.has .noclobber && (Program.Process.device? file).isNone &&
    match s.process.files.stat (Program.pathOf file) with
    | .ok (_, .file ..) => true
    | _ => false

/-- What a descriptor is made to lead to: a number of something that is open, or
nothing, if it is closed. -/
def Target.destination (s : State) (target : Target) : Except Text (Option Nat × Program.Process) :=
  let opened (opening : Program.Process.Opening) : Except Text (Option Nat × Program.Process) :=
    match s.process.openPath opening target.text with
    | .ok (number, process) => .ok (some number, process)
    | .error e =>
        let isThere := target.direction = .write ∧ s.has .noclobber ∧ e = .isDirectory
        .error (openFailure (opening = .reading ∨ isThere) target.text e)
  match target.direction with
  | .read => opened .reading
  | .write =>
      if s.protects target.text then .error (openFailure false target.text .fileExists)
      else opened .writing
  | .overwrite => opened .writing
  | .append => opened .appending
  | .update => opened .updating
  | .below =>
      let (number, process) := s.process.hold (.text target.text)
      .ok (some number, process)
  | .duplicate =>
      match target.text with
      | ['-'] => .ok (none, s.process)
      | _ =>
          match s.process.handle? (Program.valueOf 10 target.text) with
          | some (number, _) => .ok (some number, s.process)
          | none => .error (target.text ++ ofString (": " ++ Errno.badDescriptor.message))

/-- Carries out redirections, as many as can be, and says why the next one cannot
be. A descriptor that should have led to one that is closed is closed then. -/
def State.redirect (s : State) : List Target → State × Option Text
  | [] => (s, none)
  | target :: targets =>
      match target.destination s with
      | .error why =>
          if target.direction = .duplicate then
            ({ s with process := s.process.connect target.descriptor none }, some why)
          else (s, some why)
      | .ok (number, process) =>
          { s with process := process.connect target.descriptor number }.redirect targets

/-- Puts descriptors back to where they led before. -/
def State.putBack (after before : State) (targets : List Target) : State :=
  if targets = [] then after
  else
    let process := targets.foldl (fun p target =>
      p.connect target.descriptor (before.process.channels.lookup target.descriptor)) after.process
    let process := if after.jobs.isEmpty then process.forget before.process.nextHandle else process
    { after with process := process }

/-- Expands the words of redirections. A word for a descriptor has to be a digit,
or the dash that closes one. -/
def expandTargets (capture : Capture) : List Redirection → State → List Target × State
  | [], s => ([], s)
  | .mk descriptor direction word :: more, s =>
      let (text, s) := expandText capture word s
      if s.flow ≠ .next then ([], s)
      else if direction = .duplicate ∧ text ≠ ['-'] ∧
          !(text.length = 1 && text.all Char.isDigit) then
        ([], { s with line := s.reached }.giveUp (ofString "Syntax error: Bad fd number"))
      else
        let (targets, s) := expandTargets capture more s
        (⟨descriptor, direction, text⟩ :: targets, s)

end GoldenFiles.Shell
