import GoldenFiles.Config.Settings
import GoldenFiles.Error
import GoldenFiles.FileSystem.Access
import GoldenFiles.Yaml.Value

/-!
# Documents of settings

A document of settings is a mapping from the names of settings to their values.
It gives a layer: a value for each setting that it names. A name that is not
known or that comes twice makes the whole document unacceptable, and so does a
value of the wrong kind.
-/

namespace GoldenFiles

/-- A setting that a document can give. -/
inductive Key where
  | fixturesDir
  | outputDir
  | program
  | programArgs
  | inputMarker
  | outputMarker
  | inputExtension
  | expectedExtension
  | jobs
  | timeoutSecs
  | filter
  | stderr
  deriving DecidableEq, Repr

namespace Key

/-- All settings. -/
def all : List Key :=
  [fixturesDir, outputDir, program, programArgs, inputMarker, outputMarker, inputExtension,
    expectedExtension, jobs, timeoutSecs, filter, stderr]

/-- The name of a setting in a document. -/
def word : Key → String
  | fixturesDir => "fixtures_dir"
  | outputDir => "output_dir"
  | program => "program"
  | programArgs => "program_args"
  | inputMarker => "input_marker"
  | outputMarker => "output_marker"
  | inputExtension => "input_extension"
  | expectedExtension => "expected_extension"
  | jobs => "jobs"
  | timeoutSecs => "timeout_secs"
  | filter => "filter"
  | stderr => "stderr"

/-- The setting that a name stands for. -/
def ofWord? (word : String) : Option Key := all.find? (·.word = word)

end Key

namespace Layer

/-- Whether a layer gives a value to a setting. -/
def gives (layer : Layer) : Key → Bool
  | .fixturesDir => layer.fixturesDir.isSome
  | .outputDir => layer.outputDir.isSome
  | .program => layer.program.isSome
  | .programArgs => layer.programArgs.isSome
  | .inputMarker => layer.inputMarker.isSome
  | .outputMarker => layer.outputMarker.isSome
  | .inputExtension => layer.inputExtension.isSome
  | .expectedExtension => layer.expectedExtension.isSome
  | .jobs => layer.jobs.isSome
  | .timeoutSecs => layer.timeoutSecs.isSome
  | .filter => layer.filter.isSome
  | .stderr => layer.stderr.isSome

/-- The layer with the value that a node gives to a setting. References are
looked up with `find`. -/
def set? (find : Yaml.Node → Option Yaml.Node) (layer : Layer) (key : Key) (node : Yaml.Node) :
    Option Layer :=
  let text? (set : String → Layer) : Option Layer := ((find node).bind (·.text?)).map set
  match key with
  | .fixturesDir => text? fun text => { layer with fixturesDir := some (.ofString text) }
  | .outputDir => text? fun text => { layer with outputDir := some (.ofString text) }
  | .program => text? fun text => { layer with program := some (.ofString text) }
  | .programArgs =>
      ((find node).bind (·.items?)).bind fun items =>
        (items.mapM fun item => (find item).bind (·.text?)).map fun args =>
          { layer with programArgs := some args }
  | .inputMarker => text? fun text => { layer with inputMarker := some text }
  | .outputMarker => text? fun text => { layer with outputMarker := some text }
  | .inputExtension => text? fun text => { layer with inputExtension := some text }
  | .expectedExtension => text? fun text => { layer with expectedExtension := some text }
  | .jobs =>
      ((find node).bind (·.natural?)).map fun n => { layer with jobs := some n }
  | .timeoutSecs =>
      ((find node).bind (·.natural?)).map fun n => { layer with timeoutSecs := some n }
  | .filter =>
      ((find node).bind (·.optionalText?)).map fun text => { layer with filter := some text }
  | .stderr =>
      (((find node).bind (·.word?)).bind StderrMode.ofWord?).map fun mode =>
        { layer with stderr := some mode }

/-- The layer with the values that entries give to settings, each to another one. -/
def setAll? (find : Yaml.Node → Option Yaml.Node) (layer : Layer) :
    List (Yaml.Node × Yaml.Node) → Option Layer
  | [] => some layer
  | (name, value) :: entries =>
      match ((find name).bind (·.text?)).bind Key.ofWord? with
      | none => none
      | some key =>
          if layer.gives key then none
          else
            match layer.set? find key value with
            | none => none
            | some layer => layer.setAll? find entries

/-- The layer that the node of a document gives. -/
def ofNode? (root : Yaml.Node) : Option Layer :=
  ((root.target? root).bind (·.entries?)).bind fun entries =>
    ({} : Layer).setAll? root.target? entries

/-- The layer that a text gives. A text without a document gives no value. -/
def ofText? (text : List Char) : Option Layer :=
  match Yaml.read text with
  | none => none
  | some none => some {}
  | some (some root) => ofNode? root

end Layer

/-- What is said of a file that is no text. -/
def notText : IoError := .described "stream did not contain valid UTF-8"

/-- The layer that a file gives. -/
def FileSystem.layer (fs : FileSystem) (path : Path) : Except RunError Layer :=
  match path.access (fs.read path) with
  | .error e => .error (.configFile path (.unreadable e))
  | .ok content =>
      match Utf8.decodeChars? content with
      | none => .error (.configFile path (.unreadable notText))
      | some text =>
          match Layer.ofText? text with
          | none => .error (.configFile path .unacceptable)
          | some layer => .ok layer

end GoldenFiles
