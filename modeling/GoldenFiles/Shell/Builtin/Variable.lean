import GoldenFiles.Shell.Builtin.Basic
import GoldenFiles.Sorting

/-!
# Commands for variables, arguments and settings

They give values to variables and take them away, mark variables, and change the
arguments and the settings of the shell.
-/

namespace GoldenFiles.Shell

open Program (Text ofString)

/-- Variables with their values, in the order of their names, each behind what
stands in front of it. -/
def listedBindings (front : Text) (bindings : List Binding) : Text :=
  let line (b : Binding) : Text :=
    let value := match b.value with
      | some value => '=' :: reusable value
      | none => []
    front ++ b.name ++ value ++ ['\n']
  (sortedBy (·.name) bindings).flatMap line

/-- Marks a variable, and gives it a value if the word has one. -/
def mark (change : Binding → Binding) (s : State) (word : Text) : State :=
  let name := word.takeWhile (· ≠ '=')
  if s.flow ≠ .next then s
  else if !isName name then s.giveUp (badName name)
  else
    let s := if word.contains '=' then s.set name (word.drop (name.length + 1)) else s
    if s.flow = .next then s.rebind name change else s

/-- Marks variables, or lists those that are marked. -/
def marking (name : String) (isMarked : Binding → Bool) (change : Binding → Binding) : Builtin :=
  withOptions "p" fun given words s =>
    let s := s.done 0
    if words = [] ∨ given.has 'p' then
      s.print (listedBindings (ofString name ++ [' ']) (s.bindings.filter isMarked))
    else words.foldl (mark change) s

/-- Gives values to variables and marks them for programs. -/
def exportBuiltin : Builtin :=
  marking "export" (·.exported) fun b => { b with exported := true }

/-- Gives values to variables that they keep. -/
def readonlyBuiltin : Builtin := marking "readonly" (·.fixed) fun b => { b with fixed := true }

/-- The name under which settings are kept while a function runs. -/
def settingsName : Text := ['-']

/-- Gives values to variables that have their old ones back when the function
ends. -/
def localBuiltin : Builtin := fun words s =>
  if s.depth = 0 then s.giveUp (ofString "not in a function")
  else
    words.foldl (fun s word =>
      let name := word.takeWhile (· ≠ '=')
      if s.flow ≠ .next then s
      else if word = settingsName then
        { s with keptSettings := some (s.keptSettings.getD s.settings) }
      else if !isName name then s.giveUp (badName name)
      else
        let kept := s.kept.any (·.1 = name)
        let s := if kept then s else { s with kept := (name, s.binding? name) :: s.kept }
        if word.contains '=' then s.set name (word.drop (name.length + 1)) else s) (s.done 0)

/-- Takes variables and functions away. -/
def unset : Builtin := withOptions "vf" fun given names s =>
  let functions := (given.getLast?.map Prod.fst) = some 'f'
  names.foldl (fun s name =>
    if s.flow ≠ .next then s
    else if functions then { s with functions := s.functions.filter (·.1 ≠ name) }
    else if !isName name then s.giveUp (badName name)
    else s.unset name) (s.done 0)

/-! ## Settings and arguments -/

/-- What the words are to a shell or to the command that sets it up. -/
structure Setup where
  settings : List Setting
  /-- What is printed about the settings. -/
  listing : Text := []
  /-- Commands are given as an argument. -/
  commands : Bool := false
  /-- What is left of the words, and whether something ended the options. -/
  words : List Text := []
  ended : Bool := false

/-- Turns settings on or off by their letters; an `o` names one by the next word.
Where a shell is started there may also be a letter for commands. -/
def turnLetters (starting on : Bool) : Text → List Text → Setup → Except Text Setup
  | [], words, setup => .ok { setup with words := words }
  | c :: letters, words, setup =>
      if starting ∧ c = 'c' then
        turnLetters starting on letters words { setup with commands := true }
      else if starting ∧ c = 'l' then turnLetters starting on letters words setup
      else if c = 'o' then
        match words with
        | [] =>
            let listing :=
              if on then Setting.listed setup.settings else Setting.restoring setup.settings
            turnLetters starting on letters [] { setup with listing := setup.listing ++ listing }
        | name :: words =>
            match Setting.ofName? name with
            | some setting =>
                turnLetters starting on letters words
                  { setup with settings := setting.turned on setup.settings }
            | none => .error (ofString "Illegal option -o " ++ name)
      else
        match Setting.ofLetter? c with
        | some setting =>
            turnLetters starting on letters words
              { setup with settings := setting.turned on setup.settings }
        | none => .error (ofString "Illegal option -" ++ [c])

/-- Reads the words that set a shell up, at most `fuel` of those that are
options. -/
def setUp (starting : Bool) : (fuel : Nat) → List Text → Setup → Except Text Setup
  | 0, words, setup => .ok { setup with words := words }
  | fuel + 1, words, setup =>
      match words with
      | ['-'] :: words =>
          let quiet := if starting then setup.settings else
            Setting.xtrace.turned false (Setting.verbose.turned false setup.settings)
          .ok { setup with settings := quiet, words := words }
      | ['-', '-'] :: words => .ok { setup with words := words, ended := true }
      | ('-' :: letters) :: words => do
          let setup ← turnLetters starting true letters words setup
          setUp starting fuel setup.words setup
      | ('+' :: letters) :: words => do
          let setup ← turnLetters starting false letters words setup
          setUp starting fuel setup.words setup
      | words => .ok { setup with words := words }

/-- What is said when the shell is to keep watch over jobs. -/
def noTerminal : Text := ofString "can't access tty; job control turned off"

/-- Sets arguments. -/
def State.setArguments (s : State) (arguments : List Text) : State :=
  { s with arguments := arguments, optionPlace := {} }

/-- Sets settings and arguments, or lists all variables. -/
def setBuiltin : Builtin := fun words s =>
  let s := s.done 0
  if words = [] then s.print (listedBindings [] (s.bindings.filter (·.value.isSome)))
  else
    match setUp false (words.length + 1) words { settings := s.settings } with
    | .error why => s.giveUp why
    | .ok setup =>
        let isNew := setup.settings.contains .monitor && !s.has .monitor
        let s := if isNew then s.complain noTerminal else s
        let settings :=
          if isNew then Setting.monitor.turned false setup.settings else setup.settings
        let s := { s with settings := settings }.print setup.listing
        if setup.words ≠ [] ∨ setup.ended then s.setArguments setup.words else s

/-- Takes arguments away in front. -/
def shift : Builtin := withCount (fun _ => 1) fun n s =>
  if n ≤ s.arguments.length then (s.setArguments (s.arguments.drop n)).done 0
  else s.giveUp (ofString "can't shift that many")

end GoldenFiles.Shell
