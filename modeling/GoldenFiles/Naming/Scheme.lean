import GoldenFiles.Naming.CaseId
import GoldenFiles.Path.Basic

/-!
# Where the files of a case are

A case has three files. Its input is called marker, identifier, dot, extension.
The other two share one name made the same way from the output marker and the
expected extension: the expected output stands beside the input, the actual
one in the output directory. Only the last component of the input is ever
rewritten, so a marker inside a directory name is left alone.
-/

namespace GoldenFiles

/-- The markers and extensions that tie the files of a case together. -/
structure Scheme where
  inputMarker : String := "in"
  outputMarker : String := "out"
  inputExtension : String := "py"
  expectedExtension : String := "txt"
  deriving DecidableEq, Repr

/-- The two outputs of a case: the one its run writes and the one it should. -/
structure Artifacts where
  actual : Path
  expected : Path
  deriving DecidableEq, Repr

namespace Scheme

/-- The name of an input. -/
def inputName (scheme : Scheme) (id : CaseId) : String :=
  scheme.inputMarker ++ id.text ++ "." ++ scheme.inputExtension

/-- The name that both outputs share. -/
def outputName (scheme : Scheme) (id : CaseId) : String :=
  scheme.outputMarker ++ id.text ++ "." ++ scheme.expectedExtension

/-- The outputs of the case that is read from `input`. -/
def artifacts (scheme : Scheme) (id : CaseId) (input outputDir : Path) : Artifacts :=
  let name := Path.ofString (scheme.outputName id)
  { actual := outputDir.join name
    expected := input.withFileName name }

end Scheme

end GoldenFiles
