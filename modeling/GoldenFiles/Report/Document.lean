import GoldenFiles.Report.Summary

/-!
# The report as a JSON document

The document holds the status, the counts, every case in order and every
rejected name in order. A path is written only if it is text: a document that
showed another path than the one that was used would be worse than none.
-/

namespace GoldenFiles

/-- A path in a document, if it can be written there. -/
def Path.toJson? (p : Path) : Option Json := (Utf8.decode? p.bytes).map .string

/-- A case in a document. -/
def CaseReport.toJson? (report : CaseReport) : Option Json := do
  let input ← report.input.toJson?
  let actual ← report.artifacts.actual.toJson?
  let expected ← report.artifacts.expected.toJson?
  return .object
    [("id", .string report.id.text), ("input", input), ("actual", actual),
      ("expected", expected), ("verdict", report.verdict.toJson),
      ("exit_code", (report.exitCode.map Json.ofInt).getD .null),
      ("elapsed", .number report.elapsed.numeral)]

/-- A rejected name in a document. -/
def Rejected.toJson? (rejected : Rejected) : Option Json := do
  let path ← rejected.path.toJson?
  return .object [("path", path), ("reason", .string rejected.reason)]

namespace Summary

/-- The summary as a JSON value. -/
def toJson? (s : Summary) : Option Json := do
  let cases ← s.cases.mapM CaseReport.toJson?
  let rejected ← s.rejected.mapM Rejected.toJson?
  return .object
    [("status", .string s.status.word), ("exit_code", .ofNat s.status.exitCode),
      ("total", .ofNat s.total), ("passed", .ofNat s.passed), ("failed", .ofNat s.failed),
      ("infrastructure_errors", .ofNat s.infrastructureErrors),
      ("cases", .array cases), ("rejected", .array rejected)]

/-- The text of the document, if all paths are text. -/
def document? (s : Summary) : Option String := s.toJson?.map Json.pretty

end Summary

end GoldenFiles
