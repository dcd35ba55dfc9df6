import GoldenFiles.Error
import GoldenFiles.Text.Separated
import GoldenFiles.Text.Wrapping

/-!
# Diagnostics

An error that ends a run is shown as a small drawing: its code, its text, the
texts of what lies behind it, each hanging from the one before, and what can be
done about it. Long texts go on under their own beginning.
-/

namespace GoldenFiles.CommandLine

/-- The width of a diagnostic. -/
def diagnosticWidth : Nat := 78

/-- What goes in front of a text: of its first line, and of the others. Both
are equally wide. -/
structure Margin where
  first : String
  others : String
  deriving DecidableEq, Repr

namespace Margin

/-- In front of the error itself. -/
def error : Margin := ⟨"  × ", "  │ "⟩

/-- In front of something behind it, behind which there is more. -/
def cause : Margin := ⟨"  ├─▶ ", "  │   "⟩

/-- In front of the last thing behind it. -/
def lastCause : Margin := ⟨"  ╰─▶ ", "      "⟩

/-- In front of what can be done. -/
def help : Margin := ⟨"  help: ", "        "⟩

end Margin

/-- The lines of a text, each with the room that a margin leaves. -/
def textLines (margin : Margin) (text : String) : List (List Char) :=
  (Separated.split '\n' text.toList).flatMap
    (Wrapping.wrap (diagnosticWidth - margin.first.length))

/-- What is said of a script that has no dictionary to find its words. -/
def noDictionary (script : Text.LineBreak.Script) : String :=
  "ICU4X data error: No segmentation model for complex script: " ++ script.name

/-- What breaking the lines of a text makes known, as lines. -/
def notices (text : String) : List String :=
  ((Separated.split '\n' text.toList).flatMap fun line =>
    Text.LineBreak.scripts (Text.shown line)).map noDictionary

/-- A text with a margin, as lines, behind what breaking it makes known. -/
def hung (margin : Margin) (text : String) : List String :=
  notices text ++
    match textLines margin text with
    | [] => [margin.first]
    | line :: rest =>
        (margin.first ++ .ofList line) :: rest.map fun line => margin.others ++ .ofList line

/-- The texts behind an error, as lines. -/
def hungCauses : List String → List String
  | [] => []
  | [text] => hung .lastCause text
  | text :: texts => hung .cause text ++ hungCauses texts

/-- The diagnostic of an error. -/
def diagnostic (e : RunError) : String :=
  let lines :=
    [e.code, ""] ++ hung .error e.message ++ hungCauses e.causes ++
      (e.help?.map (hung .help)).getD [] ++ [""]
  String.join (lines.map (· ++ "\n"))

end GoldenFiles.CommandLine
