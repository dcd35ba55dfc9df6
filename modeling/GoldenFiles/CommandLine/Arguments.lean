import GoldenFiles.CommandLine.Occurrence
import GoldenFiles.Config.Document
import GoldenFiles.Config.Validation
import GoldenFiles.Text.Digits

/-!
# Arguments

Occurrences are looked at in order and the first one that is no good decides
the error. Only the parameter for arguments of the program and the switch for
messages may come more than once.

What the command line says about settings is one more layer: it lies over that
of the file it names, which lies over the defaults, and what comes out has to
be without fault.
-/

namespace GoldenFiles.CommandLine

/-- How a report is written. -/
inductive Format where
  | text
  | json
  deriving DecidableEq, Repr

/-- When a report is coloured. -/
inductive ColorMode where
  | auto
  | always
  | never
  deriving DecidableEq, Repr

/-- The word for a format. -/
def Format.word : Format → String
  | text => "text"
  | json => "json"

/-- The word for a colour mode. -/
def ColorMode.word : ColorMode → String
  | auto => "auto"
  | always => "always"
  | never => "never"

/-- The format that a word names. -/
def Format.ofWord? (word : String) : Option Format := [text, json].find? (·.word = word)

/-- The colour mode that a word names. -/
def ColorMode.ofWord? (word : String) : Option ColorMode :=
  [auto, always, never].find? (·.word = word)

/-- What a command line says. -/
structure Arguments where
  layer : Layer := {}
  /-- The file that settings come from. -/
  config : Option Path := none
  format? : Option Format := none
  color? : Option ColorMode := none
  diff : Bool := false
  /-- How many messages are asked for. -/
  verbose : Nat := 0
  deriving DecidableEq, Repr

/-- The largest number of messages that can be asked for. -/
def mostVerbose : Nat := 255

/-- The number that a value is. -/
def number? (value : List Char) : Option Nat :=
  let digits := match value with
    | '+' :: rest => rest
    | _ => value
  (Digits.number? digits).filter (· < Nat.pow 2 64)

namespace Arguments

/-- The format of the report. -/
def format (a : Arguments) : Format := a.format?.getD .text

/-- When the report is coloured. -/
def color (a : Arguments) : ColorMode := a.color?.getD .auto

/-- Whether a parameter that may come once has come. -/
def has (a : Arguments) : Parameter → Bool
  | .fixtures => a.layer.fixturesDir.isSome
  | .output => a.layer.outputDir.isSome
  | .program => a.layer.program.isSome
  | .arg => false
  | .inputMarker => a.layer.inputMarker.isSome
  | .outputMarker => a.layer.outputMarker.isSome
  | .inputExtension => a.layer.inputExtension.isSome
  | .expectedExtension => a.layer.expectedExtension.isSome
  | .jobs => a.layer.jobs.isSome
  | .timeout => a.layer.timeoutSecs.isSome
  | .filter => a.layer.filter.isSome
  | .stderr => a.layer.stderr.isSome
  | .format => a.format?.isSome
  | .color => a.color?.isSome
  | .config => a.config.isSome

/-- Gives a parameter a value. -/
def set (a : Arguments) (p : Parameter) (value : List Char) : Except UsageError Arguments :=
  let text := String.ofList value
  let layer := a.layer
  let put (layer : Layer) : Except UsageError Arguments := .ok { a with layer := layer }
  let path (use : Path → Except UsageError Arguments) : Except UsageError Arguments :=
    if value = [] then .error .invalidValue else use (.ofString text)
  let number (use : Nat → Except UsageError Arguments) : Except UsageError Arguments :=
    match number? value with
    | some n => use n
    | none => .error .valueValidation
  let word {α : Type} (found : Option α) (use : α → Except UsageError Arguments) :
      Except UsageError Arguments :=
    match found with
    | some x => use x
    | none => .error .invalidValue
  match p with
  | .fixtures => path fun p => put { layer with fixturesDir := some p }
  | .output => path fun p => put { layer with outputDir := some p }
  | .program => path fun p => put { layer with program := some p }
  | .arg => put { layer with programArgs := some (layer.programArgs.getD [] ++ [text]) }
  | .inputMarker => put { layer with inputMarker := some text }
  | .outputMarker => put { layer with outputMarker := some text }
  | .inputExtension => put { layer with inputExtension := some text }
  | .expectedExtension => put { layer with expectedExtension := some text }
  | .jobs => number fun n => put { layer with jobs := some n }
  | .timeout => number fun n => put { layer with timeoutSecs := some n }
  | .filter => put { layer with filter := some (some text) }
  | .stderr => word (StderrMode.ofWord? text) fun m => put { layer with stderr := some m }
  | .format => word (Format.ofWord? text) fun f => .ok { a with format? := some f }
  | .color => word (ColorMode.ofWord? text) fun c => .ok { a with color? := some c }
  | .config => path fun p => .ok { a with config := some p }

/-- Gives a parameter a value if it has none yet. -/
def give (a : Arguments) (p : Parameter) (value : List Char) : Except UsageError Arguments :=
  if a.has p then .error .argumentConflict else a.set p value

/-- Takes account of an occurrence. -/
def add (a : Arguments) : Occurrence → Except UsageError Arguments
  | .switch .diff => if a.diff then .error .argumentConflict else .ok { a with diff := true }
  | .switch .verbose => .ok { a with verbose := min mostVerbose (a.verbose + 1) }
  | .switch .help => .error .displayHelp
  | .switch .version => .error .displayVersion
  | .attached p value => a.give p value
  | .separate p (some value) => a.give p value
  | .separate _ none => .error .invalidValue

/-- Takes account of occurrences in order. -/
def addAll (a : Arguments) : List Occurrence → Except UsageError Arguments
  | [] => .ok a
  | o :: occurrences =>
      match a.add o with
      | .error e => .error e
      | .ok a => a.addAll occurrences

/-- What the words of a command line say. -/
def ofWords (words : List String) : Except UsageError Arguments :=
  let said := said none (words.map String.toList)
  match ({} : Arguments).addAll said.judged with
  | .error e => .error e
  | .ok a =>
      match said.error with
      | some e => .error e
      | none => .ok a

/-- The layer of the file that is named, if one is. -/
def fileLayer (a : Arguments) (fs : FileSystem) : Except RunError Layer :=
  match a.config with
  | none => .ok {}
  | some path => fs.layer path

/-- The settings of a run. -/
def settings (a : Arguments) (fs : FileSystem) : Except RunError Settings :=
  match a.fileLayer fs with
  | .error e => .error e
  | .ok file =>
      let s := a.layer.over (file.over {})
      match s.validate fs with
      | .error e => .error e
      | .ok () => .ok s

end Arguments

end GoldenFiles.CommandLine
