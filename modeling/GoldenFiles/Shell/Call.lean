import GoldenFiles.Shell.Builtin.Table
import GoldenFiles.Shell.Redirect

/-!
# Calls

The words of a command name a function, a command of the shell or a program.
Words in front can keep functions out of it. Which of them it is decides what a
mistake means, and what becomes of the values that variables are given in front
of the command.
-/

namespace GoldenFiles.Shell

open Program (Text ofString)

/-- What the words of a command come to. -/
structure Call where
  name : Text
  arguments : List Text
  /-- Functions do not count. -/
  direct : Bool := false
  /-- Programs are looked for in the usual places. -/
  usual : Bool := false
  deriving DecidableEq, Repr

/-- Whether a word asks for the usual places. -/
def asksUsual (word : Text) : Bool :=
  match word with
  | '-' :: c :: letters => (c :: letters).all (· = 'p')
  | _ => false

/-- The call that is made through words. Options for anything else than the usual
places leave them as they are. -/
def Call.ofWords (s : State) : (fuel : Nat) → (name : Text) → List Text → Call → Call
  | 0, name, arguments, call => { call with name := name, arguments := arguments }
  | fuel + 1, name, arguments, call =>
      let itself := { call with name := name, arguments := arguments }
      let isPassed := name = "command".toList ∧
        (call.direct ∨ (s.functions.lookup name).isNone)
      if !isPassed then itself
      else
        let options := arguments.takeWhile asksUsual
        let rest := arguments.drop options.length
        let rest := if rest.head? = some ['-', '-'] then rest.tail else rest
        match rest with
        | [] => itself
        | next :: more =>
            let isEnded := rest.length < arguments.length - options.length
            if next.head? = some '-' ∧ 1 < next.length ∧ !isEnded then itself
            else
              Call.ofWords s fuel next more
                { call with direct := true, usual := call.usual || !options.isEmpty }

/-- The call that words make. -/
def State.call (s : State) (name : Text) (arguments : List Text) : Call :=
  .ofWords s (arguments.length + 1) name arguments { name := name, arguments := arguments }

/-- What is to be known about the command of the shell that a call names, if it
names one. -/
def Call.nature? (s : State) (call : Call) : Option Nature :=
  if !call.direct ∧ (s.functions.lookup call.name).isSome then none
  else Shell.nature? call.name

/-- Whether the word behind some others can be a name and a value for it. -/
def givesValues (words : List Text) (s : State) : Bool :=
  match words with
  | [] => false
  | name :: arguments =>
      let call := s.call name arguments
      (call.nature? s).any (·.givesValues)

/-- What comes of a command of the shell: something that could not be printed is a
failure, and a mistake is one, if it does not end the shell. -/
def State.afterBuiltin (after s : State) (name : Text) (ends : Bool) : State :=
  let after :=
    if after.muted then
      let told := { after with muted := false }.complain (name ++ ofString ": I/O error")
      told.done (told.status ||| 1)
    else after
  let after := { after with caller := s.caller }
  if after.flow = .abandoned ∧ !ends then { after with flow := .next, status := 2 } else after

/-- The settings of a function are over: variables and settings are as before. -/
def State.afterFunction (after s : State) : State :=
  let after := after.kept.foldl (fun after (name, before) => after.restore name before) after
  { after with
    arguments := s.arguments
    optionPlace := s.optionPlace
    depth := s.depth
    loops := s.loops
    kept := s.kept
    settings := after.keptSettings.getD after.settings
    keptSettings := s.keptSettings
    flow := if after.flow = .leaveFunction then .next else after.flow }

/-- The variables of a shell when it is started: those that it is given, and some
of its own. -/
def State.inherited (s : State) (parent : Nat) : List Binding :=
  let given := s.bindings.filter fun b => b.exported && b.value.isSome && isName b.name
  let own := [("IFS", " \t\n"), ("OPTIND", "1")].map fun (name, value) =>
    ({ name := name.toList, value := some value.toList } : Binding)
  let usual := [("PS1", "# ".toList), ("PS2", "> ".toList), ("PS4", "+ ".toList),
      ("PATH", Program.usualDirectories), ("PPID", decimal parent)].map fun (name, value) =>
    ({ name := name.toList, value := some value } : Binding)
  let kept := given.filter fun b => own.all (·.name ≠ b.name)
  kept.map (fun b => { b with fixed := false }) ++ own ++
    usual.filter fun b => kept.all (·.name ≠ b.name)

/-- The path of the current directory, as it is known from outside. -/
def State.initialHere (s : State) : Text :=
  let loc := s.process.files.here
  match s.value? "PWD".toList with
  | some path =>
      match path.head?, (s.process.files.stat (Program.pathOf path)).toOption with
      | some '/', some (found, _) => if found = loc then path else physicalPath loc
      | _, _ => physicalPath loc
  | none => physicalPath loc

/-- A shell that runs a script as a process of its own. -/
def State.started (s : State) (name : Text) (arguments : List Text) (settings : List Setting) :
    State :=
  let here := s.initialHere
  let number := s.nextNumber
  let fresh : State :=
    { process := s.process
      name := name
      arguments := arguments
      bindings := s.inherited s.number
      settings := settings
      number := number
      above := s.number :: s.above
      nextNumber := number + 1
      traps := s.traps.filter (·.2 = [])
      here := here
      mask := s.mask }
  let pwd := "PWD".toList
  (fresh.restore pwd none).bind
    { name := pwd, value := some here, exported := (fresh.binding? pwd).any (·.exported) }

/-- What is shown of a command before it is run. -/
def traceLine (front : Text) (assignments : List (Text × Text)) (words : List Text) : Text :=
  let settings := assignments.map fun (name, value) => name ++ '=' :: value
  front ++ Program.spaced (settings ++ words) ++ ['\n']

end GoldenFiles.Shell
