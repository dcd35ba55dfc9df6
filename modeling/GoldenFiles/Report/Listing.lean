import GoldenFiles.Content.Diff
import GoldenFiles.FileSystem.Lookup
import GoldenFiles.Report.Styled
import GoldenFiles.Report.Summary

/-!
# The report as text

Standard output gets one line per case and nothing else, so that it can be
processed as it is. The error stream tells the rest in the same order: rejected
names first, under each failed case its reason and, if wanted, how the files
differ, and at the end the counts. Files are read when the report is written;
if one cannot be read any more, no difference is shown.
-/

namespace GoldenFiles

/-- The displayed text of the file that a path names, line by line. -/
def FileSystem.displayed? (fs : FileSystem) (p : Path) : Option (List Diff.Line) :=
  match fs.read p with
  | .ok content => some (Separated.split '\n' (Content.displayText content))
  | .error _ => none

namespace Listing

/-- Text on a stream. -/
def say (stream : Stream) (s : String) : Stream × Piece := (stream, .text s)

/-- Text on a stream in bold letters of a colour. -/
def emphasize (stream : Stream) (color : Color) (s : String) : Styled :=
  [(stream, .style (some color) true), (stream, .text s), (stream, .plain)]

/-- A rejected name. -/
def rejectedName (rejected : Rejected) : Styled :=
  [(.err, .style (some .yellow) false), say .err "skipped", (.err, .plain),
    say .err (" " ++ rejected.path.display ++ ": " ++ rejected.reason ++ "\n")]

/-- The line of a case on standard output. -/
def caseLine (report : CaseReport) : Styled :=
  say .out ("Test " ++ report.id.text ++ " ") ::
    emphasize .out (if report.verdict.isPassed then .green else .red) report.verdict.label ++
    [say .out ".\n"]

/-- The sign and the colour of a change. -/
def mark : Diff.Change → Char × Option Color
  | .same _ => (' ', none)
  | .removed _ => ('-', some .red)
  | .added _ => ('+', some .green)

/-- A line of a difference. -/
def changedLine (sign : Char) (line : Diff.Line) : String :=
  String.ofList ([' ', ' ', sign] ++ line ++ ['\n'])

/-- A change, every line with its sign. -/
def change (c : Diff.Change) : Styled :=
  let (sign, color) := mark c
  (.err, .style color false) :: c.lines.map (fun line => say .err (changedLine sign line)) ++
    [(.err, .plain)]

/-- How the files of a case differ, under their paths. -/
def difference (fs : FileSystem) (artifacts : Artifacts) : Styled :=
  match fs.displayed? artifacts.expected, fs.displayed? artifacts.actual with
  | some expected, some actual =>
      say .err ("  --- " ++ artifacts.expected.display ++ "\n") ::
        say .err ("  +++ " ++ artifacts.actual.display ++ "\n") ::
        (Diff.changes expected actual).flatMap change
  | _, _ => []

/-- What is told about a failed case. -/
def detail (fs : FileSystem) (showDiff : Bool) (report : CaseReport) : Styled :=
  match report.verdict with
  | .passed => []
  | .failed reason =>
      say .err ("  " ++ reason.message ++ "\n") ::
        match showDiff, reason with
        | true, .mismatch _ => difference fs report.artifacts
        | _, _ => []

/-- The counts at the end. -/
def counts (s : Summary) : Styled :=
  say .err ("\nTest summary: total " ++ toString s.total ++ ", ") ::
    emphasize .err .green "passed" ++
    say .err (" " ++ toString s.passed ++ ", ") ::
    emphasize .err .red "failed" ++
    [say .err (" " ++ toString s.failed ++ "\n")]

end Listing

/-- The whole report, with or without the differences of mismatching files. -/
def Summary.listing (s : Summary) (fs : FileSystem) (showDiff : Bool) : Styled :=
  s.rejected.flatMap Listing.rejectedName ++
    s.cases.flatMap (fun report => Listing.caseLine report ++ Listing.detail fs showDiff report) ++
    Listing.counts s

end GoldenFiles
