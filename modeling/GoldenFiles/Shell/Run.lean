import GoldenFiles.Shell.Call
import GoldenFiles.Shell.Reader

/-!
# Running scripts

Running a command takes a state of the shell to the next one. Commands contain
commands, loops repeat them and words run them, so every call is given one step
less than its caller had; with no step left, a command is taken for one that
does not end, and only the time limit stops it.
-/

namespace GoldenFiles.Shell

open Program (Text Sink ofString)

namespace State

/-- A command that does not end: all the time there is passes. -/
def endless (s : State) : State :=
  { s with
    process := { s.process with clock := s.process.deadline.getD s.process.clock }
    flow := .stopped }

/-- After a round of a loop: whether the next one is run, and what else the round
means for what comes behind the loop. -/
def afterRound (s : State) : Bool × State :=
  match s.flow with
  | .next => (true, s)
  | .leaveLoop levels =>
      (false, { s with flow := if levels ≤ 1 then .next else .leaveLoop (levels - 1) })
  | .nextRound levels =>
      if levels ≤ 1 then (true, { s with flow := .next })
      else (false, { s with flow := .nextRound (levels - 1) })
  | _ => (false, s)

/-- The signals that this shell has not yet done anything about. -/
def pending (s : State) : List Nat :=
  if s.isProcess then (s.signals.filter (·.1 = s.number)).map Prod.snd else []

/-- Sends a signal to a shell that waits, unless it is on its way already. -/
def sent (s : State) (number signal : Nat) : State :=
  if s.signals.contains (number, signal) then s
  else { s with signals := s.signals ++ [(number, signal)] }

/-- Whether a signal that is pending ends the shell. -/
def isDoomed (s : State) : Bool := s.pending.any fun signal => (s.traps.lookup signal).isNone

/-- After a program that was run: what killed it is not the end of the shell, but
is told, unless it ends the shell as well. -/
def afterProgram (s : State) (flow : Flow) : State :=
  match s.flow with
  | .killed signal =>
      let told := if s.isDoomed then s else s.tell (notice signal)
      { told with flow := flow, status := 128 + signal }
  | _ => s

/-- Ends the shell if a command failed that had to succeed. -/
def checked (s : State) : State :=
  if s.has .errexit ∧ !s.guarded ∧ s.status ≠ 0 ∧ s.flow = .next then
    { s with flow := .leaveShell }
  else s

/-- After a script that was run in the midst of another one: leaving it is not
leaving the other. -/
def afterScript (after s : State) : State :=
  { after with
    caller := s.caller
    line := s.line
    reached := s.reached
    flow := if after.flow = .leaveFunction then .next else after.flow }

/-- The words that the script was read from, shown if that is asked for. -/
def shown (s : State) (text : Text) : State := if s.has .verbose then s.tell text else s

/-- What is said of a name that no program could be found or run for, and the
status. -/
def noProgram (s : State) (name : Text) (e : Errno) : State :=
  let absent := e = .noEntry ∨ e = .notDirectory ∨ e = .nameTooLong ∨ e = .tooManyLinks
  let paths := (Separated.split ':' s.searchPath).map fun dir => dir ++ '/' :: name
  let isThere := name.contains '/' ∨ paths.any fun path =>
    match s.process.files.stat (Program.pathOf path) with
    | .ok (_, .file ..) => true
    | _ => false
  let e := if name = [] then Errno.permissionDenied else e
  let why := if e = .noEntry ∨ e = .notDirectory then "not found" else e.message
  s.failed (if absent ∨ !isThere then 127 else 126) (name ++ ofString (": " ++ why))

end State

/-- How many functions may be run, each called by the next. -/
def maxDepth : Nat := 1000

/-- How long it takes to start a process in the background. -/
def forkTime : Nat := 300000

/-- How much time passes before it is looked again whether a job has ended. -/
def pause : Nat := 1000000

/-- What is left of a job that a signal has ended. -/
def Job.struckBy (job : Job) (signal : Nat) : PastJob :=
  { number := job.number
    place := job.place
    status := 128 + signal
    signal := some signal
    pipes := job.body.pipes
    known := false }

/-- What is left of a job that has ended as a shell. -/
def Job.past (job : Job) (ended : State) : PastJob :=
  match ended.flow with
  | .killed signal => { job.struckBy signal with known := true }
  | _ =>
      { number := job.number
        place := job.place
        status := ended.status % 256
        pipes := job.body.pipes }

/-- A part of a job that was run. -/
structure Stretch where
  /-- The shell that it is, as it has ended. -/
  ended : State
  /-- What comes behind it. -/
  more : Option Command := none
  /-- The shell that has started it. -/
  after : State

/-- The shell that has started a job, after a part of the job: what comes behind
that is left to be run, or the job has ended. -/
def Stretch.settled (run : Stretch) (job : Job) : State :=
  match run.more with
  | some body =>
      let rest : Job := { job with
        body := body
        scene := run.ended.toScene
        directory := run.ended.process.files.here
        channels := run.ended.process.channels
        clock := run.ended.process.clock
        arrivals := run.ended.arrivals }
      { run.after with jobs := run.after.jobs ++ [rest] }
  | none => { run.after with past := job.past run.ended :: run.after.past }

/-- The clock to which a job may run that is not waited for: a little longer than
the shell itself. -/
def grace : Nat := 1000000

mutual

/-- Runs a command. -/
def run : (fuel : Nat) → Command → State → State
  | 0, _, s => s.endless
  | fuel + 1, c, s =>
      if s.flow ≠ .next ∨ s.has .noexec then s
      else if s.process.isOver then { s with flow := .stopped }
      else
        let s := { s with process := s.process.pass Program.instant }
        match c with
        | .empty => s
        | .simple line assignments words redirections =>
            receive fuel
              (runSimple fuel assignments words redirections { s with line := line }).checked
        | .redirected line body redirections =>
            let s := { s with line := line }
            let (targets, s) := expandTargets (capture fuel) redirections s
            if s.flow ≠ .next then s
            else
              match s.redirect targets with
              | (after, some why) => ((after.failed 2 why).putBack s targets).checked
              | (redirected, none) => (run fuel body redirected).putBack s targets
        | .pipe first second => (receive fuel (runPipe fuel first second s)).checked
        | .not body =>
            let after := run fuel body { s with guarded := true }
            let status := if after.status = 0 then 1 else 0
            { after with
              guarded := s.guarded, status := if after.flow = .next then status else after.status }
        | .and first second =>
            let after := run fuel first { s with guarded := true }
            let after := { after with guarded := s.guarded }
            if after.status = 0 then run fuel second after else after
        | .or first second =>
            let after := run fuel first { s with guarded := true }
            let after := { after with guarded := s.guarded }
            if after.status = 0 then after else run fuel second after
        | .sequence first second => run fuel second (run fuel first s)
        | .background body =>
            let (null, process) := s.process.hold .null
            let job : Job :=
              { number := s.nextNumber
                place := some s.nextPlace
                body := body.unwrapped
                scene := s.child.toScene
                directory := process.files.here
                channels := (process.connect 0 (some null)).channels
                clock := process.clock + forkTime }
            { s with
              process := process
              jobs := s.jobs ++ [job]
              past := s.pastAfterStart
              lastJob := some job.number
              nextNumber := s.nextNumber + 1
              status := 0 }
        | .subshell line body =>
            let s := { s with line := line }
            let ended := leave fuel (run fuel body s.child)
            (receive fuel ((s.resume ended).afterProgram s.flow)).checked
        | .choice test yes no =>
            let after := run fuel test { s with guarded := true }
            let after := { after with guarded := s.guarded }
            if after.flow ≠ .next then after
            else if after.status = 0 then run fuel yes after
            else
              match no with
              | .empty => { after with status := 0 }
              | no => run fuel no after
        | .loop untilDone test body =>
            let after := rounds fuel untilDone test body 0 { s with loops := s.loops + 1 }
            { after with loops := s.loops }
        | .forEach line name words body =>
            let s := { s with line := line }
            let (texts, s) := match words with
              | none => (s.arguments, s)
              | some words => expandWords (capture fuel) words s
            if s.flow ≠ .next then s
            else
              let after := turns fuel name texts body 0 { s with loops := s.loops + 1 }
              { after with loops := s.loops }
        | .select line word arms =>
            let s := { s with line := line }
            let (subject, s) := expandText (capture fuel) word s
            if s.flow ≠ .next then s else runArm fuel subject arms s
        | .define name body =>
            { s with functions := (name, body) :: s.functions.filter (·.1 ≠ name), status := 0 }

/-- Does what is to be done on signals that have been sent to the shell up to now. -/
def receive : (fuel : Nat) → State → State
  | 0, s => s.endless
  | fuel + 1, s =>
      if s.flow ≠ .next then s
      else
        let s := catchUp fuel pause s.process.clock s
        match s.pending, s.arrivals.find? (·.1 ≤ s.process.clock) with
        | signal :: _, _ =>
            receive fuel
              (deliver fuel signal { s with signals := s.signals.erase (s.number, signal) })
        | [], some arrival =>
            receive fuel
              (deliver fuel arrival.2 { s with arrivals := s.arrivals.erase arrival })
        | [], none => s

/-- Does what is to be done on a signal. -/
def deliver : (fuel : Nat) → (signal : Nat) → State → State
  | 0, _, s => s.endless
  | fuel + 1, signal, s =>
      if s.flow ≠ .next then s
      else
        let usual : State :=
          if isIgnored signal then s
          else if isPausing signal then s.endless
          else { s with flow := .killed signal }
        if signal = 9 ∨ signal = 19 then usual
        else
          match s.traps.lookup signal with
          | none => usual
          | some [] => s
          | some action =>
              let after := runText fuel action { s with trapStatus := some s.status }
              { after with
                trapStatus := s.trapStatus
                line := s.line
                reached := s.reached
                status := match after.flow with
                  | .next | .leaveLoop _ | .nextRound _ => s.status
                  | _ => after.status }

/-- Runs a command and gives what it prints. -/
def capture : (fuel : Nat) → Command → State → Text × State
  | 0, _, s => ([], s.endless)
  | fuel + 1, body, s =>
      let pipe := Sink.pipe s.nextNumber
      let (number, process) := s.process.hold (.sink pipe)
      let child := { s.child with
        process := process.connect 1 (some number)
        nextNumber := s.nextNumber + 1
        guarded := false }
      let ended := finish fuel none (leave fuel (run fuel body child))
      let after := (s.resume ended).afterProgram s.flow
      let after := { after with captured := after.status, status := s.status }
      let after := if after.isDoomed then receive fuel after else after
      let others := after.process.chunks.filter (·.sink ≠ pipe)
      (ended.process.written pipe,
        { after with process := { after.process with chunks := others } })

/-- Runs a command that reads what another one prints. -/
def runPipe : (fuel : Nat) → (first second : Command) → State → State
  | 0, _, _, s => s.endless
  | fuel + 1, first, second, s =>
      let (text, after) := capture fuel first s
      let clock := after.process.clock
      let (number, process) := { after.process with clock := s.process.clock }.hold (.text text)
      let start := { after.child with
        process := process.connect 0 (some number)
        flow := .next
        status := s.status }
      let ended := leave fuel (run fuel second start)
      let ended := { ended with
        process := { ended.process with clock := max clock ended.process.clock } }
      let result := (s.resume ended).afterProgram s.flow
      if after.flow ≠ .next then { result with flow := after.flow }
      else { result with jobs := after.jobs ++ ended.orphans }

/-- Repeats a command; `last` is the status of the last round. -/
def rounds : (fuel : Nat) → (untilDone : Bool) → (test body : Command) → (last : Nat) →
    State → State
  | 0, _, _, _, _, s => s.endless
  | fuel + 1, untilDone, test, body, last, s =>
      let tested := run fuel test { s with guarded := true }
      let tested := { tested with guarded := s.guarded }
      match tested.afterRound with
      | (false, after) => after
      | (true, after) =>
          if tested.flow = .next ∧ (after.status = 0) = (untilDone = true) then
            { after with status := last }
          else if tested.flow ≠ .next then rounds fuel untilDone test body last after
          else
            match (run fuel body after).afterRound with
            | (false, after) => after
            | (true, after) => rounds fuel untilDone test body after.status after

/-- Runs a command once for each text; `last` is the status of the last round. -/
def turns : (fuel : Nat) → (name : Text) → List Text → Command → (last : Nat) → State → State
  | 0, _, _, _, _, s => s.endless
  | _, _, [], _, last, s => { s with status := last }
  | fuel + 1, name, text :: texts, body, _, s =>
      let s := s.set name text
      if s.flow ≠ .next then s
      else
        match (run fuel body s).afterRound with
        | (false, after) => after
        | (true, after) => turns fuel name texts body after.status after

/-- Runs the first arm with a pattern that matches. -/
def runArm : (fuel : Nat) → (subject : Text) → List (List Word × Command) → State → State
  | 0, _, _, s => s.endless
  | _, _, [], s => { s with status := 0 }
  | fuel + 1, subject, (patterns, body) :: arms, s =>
      let (hit, s) := patterns.foldl (fun (hit, s) pattern =>
        if hit then (hit, s)
        else
          let (atoms, s) := expandParts (capture fuel) false pattern s
          ((patternOf atoms).covers subject, s)) (false, s)
      if s.flow ≠ .next then s
      else if !hit then runArm fuel subject arms s
      else
        match body with
        | .empty => { s with status := 0 }
        | body => run fuel body s

/-- Gives variables their values, one after the other. -/
def assignAll : (fuel : Nat) → List (Text × Word) → State → List (Text × Text) × State
  | 0, _, s => ([], s.endless)
  | _, [], s => ([], s)
  | fuel + 1, (name, word) :: more, s =>
      let (value, s) := expandText (capture fuel) word s
      let s := if s.flow = .next then s.set name value else s
      if s.flow ≠ .next then ([], s)
      else
        let (values, s) := assignAll fuel more s
        ((name, value) :: values, s)

/-- Shows a command before it is run, if that is asked for, where the error stream
led before the redirections of the command. -/
def trace : (fuel : Nat) → List (Text × Text) → (words : List Text) → (before : State) → State →
    State
  | 0, _, _, _, s => s.endless
  | fuel + 1, values, words, before, s =>
      if !s.has .xtrace ∨ s.flow ≠ .next then s
      else
        let quiet := { s with settings := Setting.xtrace.turned false s.settings }
        let text := (s.value? "PS4".toList).getD []
        let (front, _) := match parts ⟨0, []⟩ (Source.steps ⟨0, []⟩ text) .never text with
          | .ok (word, _) => expandText (capture fuel) word quiet
          | .error _ => (text, quiet)
        let teller := { s with process := { s.process with channels := before.process.channels } }
        let told := teller.tell (traceLine front values words)
        { told with process := { told.process with channels := s.process.channels } }

/-- Runs a simple command. -/
def runSimple : (fuel : Nat) → List (Text × Word) → List Word → List Redirection → State → State
  | 0, _, _, _, s => s.endless
  | fuel + 1, assignments, words, redirections, s =>
      let (texts, s) :=
        expandCommand (capture fuel) givesValues [] words { s with captured := 0 }
      if s.flow ≠ .next then s
      else
        let (targets, s) := expandTargets (capture fuel) redirections s
        if s.flow ≠ .next then s
        else
          let nature : Option Nature := match texts with
            | [] => none
            | name :: arguments => Call.nature? s { name := name, arguments := arguments }
          let special := nature.any (·.special)
          match s.redirect targets with
          | (after, some why) =>
              let after := (after.failed 2 why).putBack s targets
              if special then { after with flow := .abandoned } else after
          | (redirected, none) =>
              let (values, assigned) := assignAll fuel assignments redirected
              let assigned := trace fuel values texts s assigned
              if assigned.flow ≠ .next then assigned.putBack s targets
              else
                match texts with
                | [] => { assigned with status := assigned.captured }.putBack s targets
                | name :: arguments =>
                    let call := assigned.call name arguments
                    let isExec := call.name = "exec".toList ∧ (call.nature? assigned).isSome
                    let names := values.map Prod.fst
                    let exported := !special ∨ (isExec ∧ call.arguments ≠ [])
                    let start :=
                      if !exported then assigned
                      else names.foldl (fun s name =>
                        s.rebind name fun b => { b with exported := true }) assigned
                    let after := runCall fuel call special start
                    let after :=
                      if special then after
                      else
                        names.foldl (fun after name => after.restore name (s.binding? name)) after
                    if isExec ∧ call.arguments = [] then after else after.putBack s targets

/-- Runs a function, a command of the shell or a program. A mistake ends the shell
if it `ends` it. -/
def runCall : (fuel : Nat) → Call → (ends : Bool) → State → State
  | 0, _, _, s => s.endless
  | fuel + 1, call, ends, s =>
      match (if call.direct then none else s.functions.lookup call.name) with
      | some body =>
          if s.depth ≥ maxDepth then
            s.giveUp (ofString "Maximum function recursion depth (1000) reached")
          else
            let start := { s with
              arguments := call.arguments
              optionPlace := {}
              depth := s.depth + 1
              loops := 0
              kept := []
              keptSettings := none }
            (run fuel body start).afterFunction s
      | none =>
          if (nature? call.name).isSome then
            let after := runBuiltin fuel call.name call.arguments
              { s with caller := some call.name }
            after.afterBuiltin s call.name ends
          else if call.usual then
            let path := "PATH".toList
            let start := s.restore path (some { name := path, value := Program.usualDirectories })
            let after := runProgram fuel call.name call.arguments start
            receive fuel (after.restore path (s.binding? path))
          else receive fuel (runProgram fuel call.name call.arguments s)

/-- Runs a command of the shell. -/
def runBuiltin : (fuel : Nat) → (name : Text) → List Text → State → State
  | 0, _, _, s => s.endless
  | fuel + 1, name, arguments, s =>
      match builtin? name with
      | some builtin => builtin arguments s
      | none =>
          match String.ofList name with
          | "eval" =>
              let after := runText fuel (Program.spaced arguments) s
              { after with line := s.line, reached := s.reached }
          | "." => withOptions "" (fun _ words => runSource fuel words) arguments s
          | "exec" => withOptions "" (fun _ words => replace fuel words) arguments s
          | "command" => withOptions "pvV" (fun given words s =>
              match words with
              | [] => s.done 0
              | name :: _ => s.done 0 |>.describe special? (given.has 'V') name) arguments s
          | "wait" => withOptions "" (fun _ words s =>
              match words with
              | [] =>
                  let own := s.jobs.filter (·.place.isSome)
                  let after := await fuel (own.map (·.number)) s
                  let past := after.past.map PastJob.afterWait
                  if after.flow = .next then { after.done 0 with past := past } else after
              | words =>
                  match words.mapM s.jobNumber with
                  | .error why => s.giveUp why
                  | .ok numbers => await fuel numbers (s.done 127)) arguments s
          | _ => kill fuel arguments s

/-- Runs a script in the midst of this one. -/
def runSource : (fuel : Nat) → List Text → State → State
  | 0, _, s => s.endless
  | _, [], s => s.done 0
  | fuel + 1, file :: _, s =>
      let paths :=
        if file.contains '/' then [file]
        else (Separated.split ':' s.searchPath).map fun dir =>
          if dir = [] then file else dir ++ '/' :: file
      let isThere (path : Text) : Bool :=
        file.contains '/' || match s.process.files.stat (Program.pathOf path) with
          | .ok (_, .file ..) => true
          | _ => false
      match paths.find? isThere with
      | none => s.giveUp (file ++ ofString ": not found")
      | some path =>
          match s.process.readPath path with
          | .ok text =>
              if s.scripts ≥ maxDepth then s.endless
              else
                let start := { s with caller := some path, scripts := s.scripts + 1 }
                let after := runText fuel text start
                { after.afterScript s with scripts := s.scripts }
          | .error .isDirectory => s.done 0
          | .error e => s.giveUp (openFailure true path e)

/-- Becomes another program. -/
def replace : (fuel : Nat) → List Text → State → State
  | 0, _, s => s.endless
  | _, [], s => s.done 0
  | fuel + 1, name :: arguments, s =>
      match Program.programPath s.process s.searchPath name with
      | .error e => { s.noProgram name e with flow := .leaveShell }
      | .ok path =>
          let before := { s with caller := none }
          let after := runPath fuel name path arguments before s
          match after.flow with
          | .next => { after with flow := .leaveShell }
          | _ => after

/-- Runs a program and goes on after it. -/
def runProgram : (fuel : Nat) → (name : Text) → List Text → State → State
  | 0, _, _, s => s.endless
  | fuel + 1, name, arguments, s =>
      match Program.programPath s.process s.searchPath name with
      | .error e => s.noProgram name e
      | .ok path =>
          let isNew := !name.contains '/' && !s.found.contains name
          let s := if isNew then { s with found := s.found ++ [name] } else s
          let after := runPath fuel name path arguments s s
          let past := s.pastAfterStart.map PastJob.noticed
          let after := { after with past := past, traps := s.traps }.afterProgram s.flow
          if after.flow ≠ .stopped ∨ after.jobs.isEmpty then after
          else
            let woken := catchUp fuel pause after.process.clock { after with flow := s.flow }
            if woken.isDoomed then receive fuel woken else after

/-- Runs what is at a path, or says, as `teller`, that it cannot be run. What was
found replaces the shell, as far as nothing is done when that ends. -/
def runPath : (fuel : Nat) → (name path : Text) → List Text → State → (teller : State) → State
  | 0, _, _, _, s, _ => s.endless
  | fuel + 1, name, path, arguments, s, teller =>
      match Program.image s.process path with
      | .ok (image, before) =>
          { runImage fuel name image (before ++ arguments) s with traps := [] }
      | .error .execFormat =>
          match s.process.readPath path with
          | .ok text => { runScript fuel path arguments text s with traps := [] }
          | .error e => teller.noProgram name e
      | .error e => teller.noProgram name e

/-- Runs what was found for a program. -/
def runImage : (fuel : Nat) → (name : Text) → Program.Image → List Text → State → State
  | 0, _, _, _, s => s.endless
  | fuel + 1, name, image, arguments, s =>
      match image with
      | .utility utility =>
          let (status, process) := utility arguments s.process
          let s := { s with process := { process with channels := s.process.channels } }.done status
          if process.isOver then { s with flow := .stopped } else s
      | .environment =>
          let isSetting (word : Text) : Bool := word.contains '=' || word.head? = some '-'
          let settings := (arguments.takeWhile isSetting).filter (·.contains '=')
          let start := settings.foldl (mark fun b => { b with exported := true }) s
          match arguments.dropWhile isSetting with
          | [] =>
              let line (b : Binding) : Text := match b.value with
                | some value => if b.exported then b.name ++ '=' :: value ++ ['\n'] else []
                | none => []
              { s with process := s.process.tell 1 (start.bindings.flatMap line) }.done 0
          | name :: rest =>
              let found := (Program.programPath s.process start.searchPath name).bind fun path =>
                Program.image s.process path
              match found with
              | .ok (image, before) =>
                  let after := runImage fuel name image (before ++ rest) start
                  { after with bindings := s.bindings }
              | .error e =>
                  let why := Program.quoted name ++ ofString (": " ++ e.message)
                  let s := { s with process := s.process.complain "env" why }
                  s.done (if e = .noEntry then 127 else 126)
      | .shell =>
          let refuse (why : Text) : State :=
            (s.tell (name ++ ofString ": 0: " ++ why ++ ['\n'])).done 2
          match setUp true (arguments.length + 1) arguments { settings := [] } with
          | .error why => refuse why
          | .ok setup =>
              let readScript (arguments : List Text) : State :=
                let (text, process) := (s.process.readAll 0).toOption.getD ([], s.process)
                let start := { s with process := process }.started name arguments
                  (Setting.stdin.turned true setup.settings)
                runShell fuel text start s
              match setup.commands, setup.words with
              | true, [] => refuse (ofString "-c requires an argument")
              | true, [commands] =>
                  runShell fuel commands (s.started name [] setup.settings) s
              | true, commands :: name :: arguments =>
                  runShell fuel commands (s.started name arguments setup.settings) s
              | false, [] => readScript []
              | false, file :: arguments =>
                  if setup.settings.contains .stdin then readScript (file :: arguments)
                  else
                    match s.process.readPath file with
                    | .ok text => runShell fuel text (s.started file arguments setup.settings) s
                    | .error .isDirectory => runShell fuel [] (s.started file arguments []) s
                    | .error e => refuse (openFailure true file e)

/-- Runs a script as a process of its own. -/
def runScript : (fuel : Nat) → (name : Text) → List Text → Text → State → State
  | 0, _, _, _, s => s.endless
  | fuel + 1, name, arguments, text, s => runShell fuel text (s.started name arguments []) s

/-- Runs a script in a shell that was made for it. -/
def runShell : (fuel : Nat) → Text → (start s : State) → State
  | 0, _, _, s => s.endless
  | fuel + 1, text, start, s => s.resume (leave fuel (runText fuel text start))

/-- Runs the lines of a text. -/
def runText : (fuel : Nat) → Text → State → State
  | 0, _, s => s.endless
  | fuel + 1, text, s =>
      let lines := text.count '\n'
      match nextLine ⟨lines, s.aliases⟩ text with
      | none => (s.shown text).done 0
      | some _ => runLines fuel lines text s

/-- Runs lines, of so many in all. -/
def runLines : (fuel : Nat) → (lines : Nat) → Text → State → State
  | 0, _, _, s => s.endless
  | fuel + 1, lines, text, s =>
      if s.flow ≠ .next then s
      else
        let place (rest : Text) : Nat := lines + 1 - rest.count '\n'
        match nextLine ⟨lines, s.aliases⟩ text with
        | none => s.shown text
        | some (.ok (c, rest)) =>
            let s := { s with reached := place rest }.shown (text.take (text.length - rest.length))
            runLines fuel lines rest (run fuel c s)
        | some (.error mistake) =>
            let s := s.shown (text.take (text.length - mistake.rest.length))
            { s with line := mistake.line.getD (place mistake.rest) }.giveUp mistake.text

/-- Ends a shell: does what is to be done then. -/
def leave : (fuel : Nat) → State → State
  | 0, s => s.endless
  | fuel + 1, s =>
      match s.flow, s.traps.lookup 0 with
      | .stopped, _ | .killed _, _ | _, none | _, some [] => s
      | _, some action =>
          let after := runText fuel action
            { s.untrap 0 with flow := .next, trapStatus := some s.status, depth := 0, loops := 0 }
          { after with
            status := if after.flow = .leaveShell then after.status else s.status
            flow := match after.flow with
              | .stopped => .stopped
              | .killed signal => .killed signal
              | _ => .leaveShell }

/-- Runs the jobs that are left when a shell ends, each up to a time, or all to
their ends. -/
def finish : (fuel : Nat) → (limit : Option Nat) → State → State
  | 0, _, s => s
  | fuel + 1, limit, s =>
      let s := match limit with
        | some limit => catchUp fuel 0 limit s
        | none => s
      match s.jobs with
      | [] => s
      | job :: jobs => finish fuel limit (runJob fuel job limit { s with jobs := jobs }).after

/-- Runs a job up to a time. -/
def runJob : (fuel : Nat) → Job → (limit : Option Nat) → State → Stretch
  | 0, _, _, s => { ended := s, after := s }
  | fuel + 1, job, limit, s =>
      let deadline := match limit, s.process.deadline with
        | some a, some b => some (min a b)
        | some a, none => some a
        | none, deadline => deadline
      let start : State := { s.child with
        toScene := job.scene
        process := { s.process with
          files := { s.process.files with here := job.directory }
          clock := job.clock
          channels := job.channels
          deadline := deadline }
        arrivals := job.arrivals
        guarded := false
        flow := .next }
      let (first, more) := job.body.steps
      let ended := run fuel first start
      let ended := if more.isSome ∧ ended.flow = .next then ended else leave fuel ended
      { ended := ended
        more := if ended.flow = .next then more else none
        after := { s with
          process := { s.process with
            files := { ended.process.files with here := s.process.files.here }
            handles := ended.process.handles
            nextHandle := ended.process.nextHandle
            outputFile := ended.process.outputFile
            chunks := ended.process.chunks }
          nextNumber := ended.nextNumber
          signals := ended.signals
          jobs := s.jobs ++ ended.orphans } }

/-- Runs the jobs up to a time, those that have not been tried up to shortly before.
Of what can be done by then, always the part is done that ends first. What does not
end by then is run again later. -/
def catchUp : (fuel : Nat) → (least limit : Nat) → State → State
  | 0, _, _, s => s
  | fuel + 1, least, limit, s =>
      let isReady (job : Job) : Bool := max job.tried job.clock + least ≤ limit
      let ready := s.jobs.filter isReady
      let runs := ready.map fun job =>
        let others := s.jobs.filter (·.number ≠ job.number)
        (job, runJob fuel job (some limit) { s with jobs := others })
      let ending := runs.filter fun (_, run) => run.ended.flow ≠ .stopped
      match sortedBy (fun (_, run) => run.ended.process.clock) ending with
      | [] =>
          { s with
            jobs := s.jobs.map fun job => if isReady job then { job with tried := limit } else job }
      | (job, run) :: _ => catchUp fuel least limit (run.settled job)

/-- Waits for jobs. -/
def await : (fuel : Nat) → (numbers : List Nat) → State → State
  | 0, _, s => s.endless
  | _, [], s => s
  | fuel + 1, number :: numbers, s =>
      match s.jobs.find? (·.number = number) with
      | some job =>
          let others := s.jobs.filter (·.number ≠ number)
          let run := runJob fuel job none { s with jobs := others }
          let clock := max s.process.clock run.ended.process.clock
          if run.ended.flow = .stopped then
            { run.after with
              process := { run.after.process with clock := clock }
              flow := .stopped }
          else
            let after := catchUp fuel 0 (clock + 1) s
            let after := receive fuel
              { after with process := { after.process with clock := clock } }
            if after.flow ≠ .next then after else await fuel (number :: numbers) after
      | none =>
          let after : State := match s.past.find? (·.number = number) with
            | none => s
            | some job =>
                let after := match job.signal with
                  | some signal => if job.waited then s else s.tell (notice signal)
                  | none => s
                let past := after.past.map fun other =>
                  if other.number = number then other.afterWait else other
                { after.done job.status with past := past }
          await fuel numbers after

/-- Sends a signal to jobs. They have been run up to now, and end, unless they do
something else on it. -/
def strike : (fuel : Nat) → (signal : Nat) → List Job → State → State
  | 0, _, _, s => s.endless
  | _, _, [], s => s
  | fuel + 1, signal, job :: jobs, s =>
      let others := s.jobs.filter (·.number ≠ job.number)
      let now := s.process.clock
      let run := runJob fuel job (some now) { s with jobs := others }
      let isStopped := signal = 9 ∨ signal = 19
      let struck : State :=
        if run.ended.flow ≠ .stopped then run.settled job
        else
          match if isStopped then none else run.ended.traps.lookup signal with
          | some [] => s
          | some _ =>
              if run.ended.arrivals.any (·.2 = signal) then s
              else
                let arrivals := job.arrivals ++ [(now, signal)]
                { s with jobs := others ++ [{ job with arrivals := arrivals }] }
          | none =>
              if isIgnored signal then s
              else { run.after with past := job.struckBy signal :: run.after.past }
      strike fuel signal jobs struck

/-- Sends a signal to processes, and says so if one of them is not there. -/
def send : (fuel : Nat) → (signal : Nat) → (numbers : List (Bool × Nat)) → State → State
  | 0, _, _, s => s.endless
  | _, _, [], s => s
  | fuel + 1, signal, (isGroup, number) :: numbers, s =>
      let job? := if isGroup then none else s.jobs.find? (·.number = number)
      let after : State :=
        if number = 0 ∨ (isGroup ∧ s.group.getLast? = some number) then
          if signal = 0 then s
          else
            let others := if s.isProcess then s.group.tail else s.group
            let s := others.foldl (fun s number => s.sent number signal) s
            let s := catchUp fuel 0 s.process.clock s
            deliver fuel signal (strike fuel signal s.jobs s)
        else if number = s.number ∧ s.isProcess ∧ !isGroup then
          if signal = 0 then s else deliver fuel signal s
        else if (number = s.number ∨ s.above.contains number) ∧ !isGroup then
          if signal = 0 then s else s.sent number signal
        else
          match job? with
          | some _ =>
              let s := catchUp fuel 0 s.process.clock s
              strike fuel signal (s.jobs.filter (·.number = number)) s
          | none =>
              if s.past.any fun job => job.number = number && !job.known then s
              else s.failed 1 (ofString "No such process\n")
      if after.flow ≠ .next then after else send fuel signal numbers after

/-- Sends a signal to processes, or tells the names of signals. -/
def kill : (fuel : Nat) → List Text → State → State
  | 0, _, s => s.endless
  | fuel + 1, arguments, s =>
      let usage := s.giveUp (ofString ("Usage: kill [-s sigspec | -signum | -sigspec] " ++
        "[pid | job]... or\nkill -l [exitstatus]"))
      let sending (signal : Nat) (targets : List Text) : State :=
        let number (target : Text) : Except Text (Bool × Nat) :=
          let isGroup := target.head? = some '-'
          let digits := if isGroup then target.tail else target
          if target.head? = some '%' then (s.jobNumber target).map (true, ·)
          else
            match State.count? digits with
            | some n => .ok (isGroup, n)
            | none => .error (State.illegalNumber digits)
        match targets, targets.mapM number with
        | [], _ => usage
        | _, .error why => s.giveUp why
        | _, .ok numbers => send fuel signal numbers (s.done 0)
      let named? := match arguments with
        | ('-' :: name) :: targets => (signal? name).map (·, targets)
        | _ => none
      match named? with
      | some (signal, targets) => sending signal targets
      | none =>
          match optionsFrom "ls:".toList (arguments.length + 1) arguments with
          | .error why => s.giveUp why
          | .ok (given, words) =>
              let signals := given.filter (·.1 = 's')
              match signals.find? fun entry => (signal? entry.2).isNone, given.has 'l', words with
              | some (_, name), _, _ =>
                  s.giveUp (ofString "invalid signal number or name: " ++ name)
              | none, true, [] =>
                  let names := (List.range greatestSignal).map fun n => signalName (n + 1) ++ ['\n']
                  (s.print (['0', '\n'] ++ names.flatMap id)).done 0
              | none, true, word :: _ =>
                  match State.count? word with
                  | none => s.giveUp (State.illegalNumber word)
                  | some n =>
                      let n := if 128 < n then n - 128 else n
                      if 0 < n ∧ n ≤ greatestSignal then (s.printLine (signalName n)).done 0
                      else
                        s.giveUp (ofString "invalid signal number or exit status: " ++ word)
              | none, false, words =>
                  let signal := (signals.getLast?.bind fun entry => signal? entry.2).getD 15
                  sending signal words

end

end GoldenFiles.Shell
