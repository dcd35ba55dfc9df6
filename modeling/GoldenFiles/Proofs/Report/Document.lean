import GoldenFiles.Proofs.Path.Text
import GoldenFiles.Report.Document

/-!
# What a document holds

A summary has a document just if all of its paths are text, and then the
document says of the run what the summary counts.
-/

namespace GoldenFiles

/-- The member of an object under a key. -/
def Json.member? (document : Json) (key : String) : Option Json :=
  match document with
  | .object members => members.lookup key
  | _ => none

/-- The status and the counts in a document are those of a summary. -/
structure Json.Tells (document : Json) (s : Summary) : Prop where
  status : document.member? "status" = some (.string s.status.word)
  exit_code : document.member? "exit_code" = some (.ofNat s.status.exitCode)
  total : document.member? "total" = some (.ofNat s.total)
  passed : document.member? "passed" = some (.ofNat s.passed)
  failed : document.member? "failed" = some (.ofNat s.failed)
  infrastructure_errors :
    document.member? "infrastructure_errors" = some (.ofNat s.infrastructureErrors)

/-- The paths of a case are text. -/
structure CaseReport.IsText (report : CaseReport) : Prop where
  input : report.input.IsText
  actual : report.artifacts.actual.IsText
  expected : report.artifacts.expected.IsText

theorem Path.exists_toJson {p : Path} (h : p.IsText) : ∃ document, p.toJson? = some document := by
  obtain ⟨text, htext⟩ := Option.isSome_iff_exists.mp ((isSome_decode?_iff p).mpr h)
  exact ⟨.string text, by rw [toJson?, htext]; rfl⟩

theorem CaseReport.exists_toJson {report : CaseReport} (h : report.IsText) :
    ∃ document, report.toJson? = some document := by
  obtain ⟨input, hinput⟩ := Path.exists_toJson h.input
  obtain ⟨actual, hactual⟩ := Path.exists_toJson h.actual
  obtain ⟨expected, hexpected⟩ := Path.exists_toJson h.expected
  rw [toJson?, hinput, hactual, hexpected]
  exact ⟨_, rfl⟩

theorem Rejected.exists_toJson {rejected : Rejected} (h : rejected.path.IsText) :
    ∃ document, rejected.toJson? = some document := by
  obtain ⟨path, hpath⟩ := Path.exists_toJson h
  rw [toJson?, hpath]
  exact ⟨_, rfl⟩

theorem exists_mapM {α β : Type _} {f : α → Option β} {items : List α}
    (h : ∀ item ∈ items, ∃ result, f item = some result) :
    ∃ results, items.mapM f = some results := by
  induction items with
  | nil => exact ⟨[], rfl⟩
  | cons item items ih =>
      obtain ⟨⟨result, hresult⟩, hrest⟩ := List.forall_mem_cons.mp h
      obtain ⟨results, hresults⟩ := ih hrest
      rw [List.mapM_cons, hresult, hresults]
      exact ⟨_, rfl⟩

namespace Summary

variable {s : Summary}

theorem exists_toJson (hcases : ∀ report ∈ s.cases, report.IsText)
    (hrejected : ∀ rejected ∈ s.rejected, rejected.path.IsText) :
    ∃ document, s.toJson? = some document := by
  obtain ⟨cases, hc⟩ := exists_mapM fun report hmem => CaseReport.exists_toJson (hcases report hmem)
  obtain ⟨rejected, hr⟩ := exists_mapM fun r hmem => Rejected.exists_toJson (hrejected r hmem)
  rw [toJson?, hc, hr]
  exact ⟨_, rfl⟩

theorem tells_of_toJson {document : Json} (h : s.toJson? = some document) : document.Tells s := by
  unfold toJson? at h
  cases hc : s.cases.mapM CaseReport.toJson? with
  | none => rw [hc] at h; cases h
  | some cases =>
      cases hr : s.rejected.mapM Rejected.toJson? with
      | none => rw [hc, hr] at h; cases h
      | some rejected =>
          rw [hc, hr] at h
          obtain rfl := Option.some.inj h
          exact ⟨rfl, rfl, rfl, rfl, rfl, rfl⟩

end Summary

end GoldenFiles
