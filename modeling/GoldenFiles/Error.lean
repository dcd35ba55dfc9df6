import GoldenFiles.Duration
import GoldenFiles.FileSystem.Error
import GoldenFiles.Path.Basic

/-!
# Errors, by how far they reach

An error either ends the run before anything is reported, or it belongs to one
case and becomes that case's verdict. The two are different types, so that no
function can confuse them. A mismatch is neither: it is what the run is for.
-/

namespace GoldenFiles

/-- An error of one case. -/
inductive CaseError where
  | launch (program : Path) (source : IoError)
  | io (path : Path) (source : IoError)
  | timedOut (after : Duration)
  deriving DecidableEq, Repr

/-- The text of an error of one case. -/
def CaseError.message : CaseError → String
  | .launch program source =>
      "failed to launch '" ++ program.display ++ "': " ++ source.message
  | .io path source => path.display ++ ": " ++ source.message
  | .timedOut after => "timed out after " ++ after.sentence ++ "s"

/-- What keeps a directory from being listed. -/
inductive ListingError where
  /-- The directory itself cannot be read. -/
  | directory (source : IoError)
  /-- An entry cannot be followed to a file. -/
  | entry (path : Path) (source : IoError)
  /-- An entry leads back to the directory. -/
  | loop (path ancestor : Path)
  deriving DecidableEq, Repr

/-- The texts of a listing error, from the outermost to its cause. -/
def ListingError.messages : ListingError → List String
  | .directory source => [source.message]
  | .entry path source =>
      ["IO error for operation on " ++ path.display ++ ": " ++ source.message,
        source.message]
  | .loop path ancestor =>
      ["File system loop found: " ++ path.display ++ " points to an ancestor " ++
        ancestor.display]

/-- What keeps a configuration file from being used. -/
inductive DocumentError where
  | unreadable (source : IoError)
  /-- The text is no document of settings. -/
  | unacceptable
  deriving DecidableEq, Repr

/-- The text of a document error. -/
def DocumentError.message : DocumentError → String
  | .unreadable source => source.message
  | .unacceptable => "not a mapping of known settings"

/-- An error that ends the run. -/
inductive RunError where
  | discovery (dir : Path) (source : ListingError)
  | config (message : String)
  | configFile (path : Path) (source : DocumentError)
  | report (source : IoError)
  /-- What is said against the workers, outermost first. -/
  | pool (said : List String)
  deriving DecidableEq, Repr

namespace RunError

/-- The word for the kind of an error. -/
def kind : RunError → String
  | discovery .. => "discovery"
  | config .. => "config"
  | configFile .. => "config_file"
  | report .. => "report"
  | pool .. => "pool"

/-- The code that a diagnostic shows. -/
def code (e : RunError) : String := "goldcheck::" ++ e.kind

/-- The text of an error. -/
def message : RunError → String
  | discovery dir _ => "Cannot read fixture directory '" ++ dir.display ++ "'"
  | config message => "Invalid configuration: " ++ message
  | configFile path _ => "Cannot load configuration file '" ++ path.display ++ "'"
  | report _ => "Cannot write report"
  | pool _ => "Cannot start worker pool"

/-- What to do about an error. -/
def help? : RunError → Option String
  | discovery .. => some "check that --fixtures points at an existing, readable directory"
  | configFile .. =>
      some "the configuration file must be a YAML mapping of harness settings"
  | config .. | report .. | pool .. => none

/-- The texts of what lies behind an error, outermost first. -/
def causes : RunError → List String
  | discovery _ source => source.messages
  | config _ => []
  | configFile _ source => [source.message]
  | report source => [source.message]
  | pool said => said

end RunError

end GoldenFiles
