import GoldenFiles.CommandLine.Run
import GoldenFiles.Proofs.CommandLine.Arguments
import GoldenFiles.Proofs.Report.Document
import GoldenFiles.Proofs.Report.Rendering
import GoldenFiles.Proofs.Report.Status
import GoldenFiles.Proofs.Run.Verdicts

/-!
# How a run from the command line ends

Either something is wrong before the first case: the configuration file, the
settings or the fixture directory, or the workers cannot be started. Then the run
ends with that error, without asking the executor for anything and without a trace
in the file system. Or nothing is wrong, and then every planned case is run, and
the exit code is the worst of what became of them. Both reports say so: the
document in its members, the text in the line that ends it.
-/

namespace GoldenFiles

/-! ## Paths that are texts -/

section Text

variable {s : Settings} {fs : FileSystem} {host : Host} {cases : List TestCase}
  {rejected : List Rejected}

theorem Settings.Plans.isText {c : TestCase} (h : s.Plans c) (fixtures : s.fixturesDir.IsText)
    (output : s.outputDir.IsText) :
    c.input.IsText ∧ c.artifacts.actual.IsText ∧ c.artifacts.expected.IsText := by
  have hname : ∀ name : String, Path.IsText ⟨Utf8.encode name⟩ := Path.isText_ofString
  rw [h.input_eq, h.actual_eq, h.expected_eq]
  exact ⟨fixtures.join (hname _), output.join (hname _), fixtures.trimmed.join (hname _)⟩

theorem isText_of_mem_rejected (fixtures : s.fixturesDir.IsText)
    (h : plan s fs host = .ok (cases, rejected)) : ∀ r ∈ rejected, r.path.IsText := by
  obtain ⟨-, loc, listing, -, hl, -, rfl⟩ := (plan_eq_ok_iff ..).mp h
  intro r hr
  obtain ⟨listed, hmem, hjudge⟩ := (Discovery.mem_rejected_iff ..).mp hr
  obtain ⟨name, why, hfile, -, rfl⟩ := (Discovery.judge_eq_inr_iff ..).mp hjudge
  show listed.path.IsText
  rw [hl.path_eq hmem, hfile.name_eq]
  exact fixtures.join (Path.isText_ofString name)

theorem isText_of_mem_reports (plans : ∀ c ∈ cases, s.Plans c) (fixtures : s.fixturesDir.IsText)
    (output : s.outputDir.IsText) (execute : Executor) (state : RunState) :
    ∀ report ∈ (runInOrder execute cases state).1, report.IsText := by
  intro report hmem
  have hc : report.testCase ∈ cases := by
    rw [← runInOrder_testCases execute cases state]
    exact List.mem_map_of_mem hmem
  obtain ⟨hinput, hactual, hexpected⟩ := (plans _ hc).isText fixtures output
  exact ⟨hinput, hactual, hexpected⟩

end Text

namespace CommandLine

/-! ## Errors that end a run -/

/-- An error of the configuration file, of the settings or of the fixture directory. -/
inductive Arguments.Fails (a : Arguments) (fs : FileSystem) (host : Host) (e : RunError) :
    Prop where
  | loading (h : a.fileLayer fs = .error e)
  | validation (file : Layer) (loaded : a.fileLayer fs = .ok file)
      (h : (a.layer.over (file.over {})).validate fs = .error e)
  | discovery (s : Settings) (accepted : a.settings fs = .ok s)
      (h : discover fs s.fixturesDir s.scheme host = .error e)

section Ending

variable {a : Arguments} {fs : FileSystem} {terminal : Terminal} {host : Host}

theorem runWith_of_halts {s : Settings} {e : RunError} (settings : a.settings fs = .ok s)
    (h : s.Halts host fs e) (executor : Settings → Executor) :
    runWith executor terminal a fs host = ended e fs := by
  unfold runWith
  simp only [settings, runSuite_of_halts h (executor s)]

theorem runWith_of_fails {e : RunError} (h : a.Fails fs host e)
    (executor : Settings → Executor) : runWith executor terminal a fs host = ended e fs := by
  cases h with
  | loading h =>
      unfold runWith
      rw [Arguments.settings, h]
  | validation file loaded h =>
      unfold runWith
      simp only [Arguments.settings, loaded, h]
  | discovery s accepted h =>
      have hplan : plan s fs host = .error e := by rw [plan, h]
      exact runWith_of_halts accepted (.unplanned hplan) executor

theorem validate_of_settings {s : Settings} (h : a.settings fs = .ok s) :
    s.validate fs = .ok () := by
  unfold Arguments.settings at h
  split at h
  · cases h
  · simp only [] at h
    split at h
    · cases h
    · next hvalid => rw [← Except.ok.inj h, hvalid]

theorem exists_plan_of_not_fails (h : ∀ e, ¬a.Fails fs host e) : ∃ s cases rejected,
    a.settings fs = .ok s ∧ plan s fs host = .ok (cases, rejected) := by
  have hsettings : ∃ s, a.settings fs = .ok s := by
    unfold Arguments.settings
    cases hfile : a.fileLayer fs with
    | error e => exact absurd (.loading hfile) (h e)
    | ok file =>
        simp only []
        cases hvalid : (a.layer.over (file.over {})).validate fs with
        | error e => exact absurd (.validation file hfile hvalid) (h e)
        | ok _ => exact ⟨_, rfl⟩
  obtain ⟨s, hs⟩ := hsettings
  cases hfound : discover fs s.fixturesDir s.scheme host with
  | error e => exact absurd (.discovery s hs hfound) (h e)
  | ok found =>
      have hplan : plan s fs host = .ok ((found.fixtures.filter (s.selects ·.id)).map
          (.ofFixture s.outputDir s.scheme), found.rejected) := by
        rw [plan, hfound]
      exact ⟨s, _, _, hs, hplan⟩

end Ending

/-! ## What a run reports -/

/-- An outcome that reports a summary: by its exit code, which is the worst
severity of the cases in any order and beside any rejected names, and by the
counts it prints. -/
structure Outcome.Reports (outcome : Outcome) (a : Arguments) (terminal : Terminal)
    (summary : Summary) : Prop where
  code_eq : outcome.code = summary.worst
  code_of_perm : ∀ other : Summary, other.cases.Perm summary.cases →
    other.status.exitCode = outcome.code
  total_eq : summary.total = summary.passed + summary.failed
  infrastructure_le : summary.infrastructureErrors ≤ summary.failed
  document : a.format = .json → ∃ document : Json, outcome.stdout = document.pretty ++ "\n" ∧
    document.Tells summary ∧ document.member? "exit_code" = some (.ofNat outcome.code)
  closing : a.format = .text → ∃ before, outcome.stderr =
    before ++ Utf8.encode (summary.closing (terminal.colored a.color))

theorem encode_append (front back : String) :
    Utf8.encode (front ++ back) = Utf8.encode front ++ Utf8.encode back := by
  rw [Utf8.encode, String.toList_append, Utf8.encodeChars, List.flatMap_append]
  rfl

theorem print_text {a : Arguments} {terminal : Terminal} (room : terminal.full = false)
    (format : a.format = .text) (summary : Summary) (fs : FileSystem) :
    ∃ out before, print a terminal summary fs =
      { stdout := out, stderr := before ++ summary.closing (terminal.colored a.color) } := by
  obtain ⟨before, hbefore⟩ :=
    summary.exists_render_err_listing fs a.diff (terminal.colored a.color)
  refine ⟨(summary.listing fs a.diff).render .out (terminal.colored a.color), before, ?_⟩
  rw [print, format]
  simp only [printText, room, Bool.false_eq_true, false_and, if_false, hbefore]

theorem print_json {a : Arguments} {terminal : Terminal} (room : terminal.full = false)
    (format : a.format = .json) {summary : Summary} {document : Json}
    (h : summary.toJson? = some document) (fs : FileSystem) :
    print a terminal summary fs = { stdout := document.pretty ++ "\n" } := by
  rw [print, format]
  simp only [printDocument, Summary.document?, h, Option.map_some, room, Bool.false_eq_true,
    if_false]

section Reported

variable {a : Arguments} {fs : FileSystem} {terminal : Terminal} {host : Host}
  {executor : Settings → Executor} {s : Settings} {summary : Summary} {state : RunState}

/-- A run whose report could be printed. -/
theorem runWith_of_print {out err : String} (settings : a.settings fs = .ok s)
    (ran : runSuite s (executor s) { files := fs } host = .ok (summary, state))
    (printed : print a terminal summary state.files = { stdout := out, stderr := err }) :
    runWith executor terminal a fs host =
      { code := summary.status.exitCode
        stdout := out
        stderr := state.stderr ++ Utf8.encode err
        files := state.files } := by
  unfold runWith
  simp only [settings, ran, printed]

/-- A run that no error kept from its first case reports its summary. -/
theorem reports_of_runSuite (room : terminal.full = false) (settings : a.settings fs = .ok s)
    (ran : runSuite s (executor s) { files := fs } host = .ok (summary, state))
    (written : ∃ document, summary.toJson? = some document) :
    (runWith executor terminal a fs host).files = state.files ∧
      (runWith executor terminal a fs host).Reports a terminal summary := by
  have hperm : ∀ other : Summary, other.cases.Perm summary.cases →
      other.status.exitCode = summary.status.exitCode := by
    intro other h
    rw [Summary.exitCode_status, Summary.exitCode_status, Summary.worst_of_perm h]
  cases hformat : a.format with
  | text =>
      obtain ⟨out, before, hprint⟩ := print_text room hformat summary state.files
      rw [runWith_of_print settings ran hprint]
      refine ⟨rfl, summary.exitCode_status, hperm, summary.total_eq,
        summary.infrastructureErrors_le_failed, fun h => ?_, fun _ => ?_⟩
      · rw [hformat] at h
        cases h
      · refine ⟨state.stderr ++ Utf8.encode before, ?_⟩
        simp only [encode_append, List.append_assoc]
  | json =>
      obtain ⟨document, hdocument⟩ := written
      have htells := Summary.tells_of_toJson hdocument
      rw [runWith_of_print settings ran (print_json room hformat hdocument state.files)]
      refine ⟨rfl, summary.exitCode_status, hperm, summary.total_eq,
        summary.infrastructureErrors_le_failed, fun _ => ?_, fun h => ?_⟩
      · exact ⟨document, rfl, htells, htells.exit_code⟩
      · rw [hformat] at h
        cases h

end Reported

/-- An error of the configuration file, of the settings or of the fixture directory
ends a run with code 2, nothing on standard output, nothing changed and nothing
asked of the executor, and so do workers that cannot be started. Any other run runs
every planned case once and reports them. -/
theorem exit_code_tells_the_worst {a : Arguments} {fs : FileSystem} {terminal : Terminal}
    (wf : fs.WellFormed) (room : terminal.full = false)
    (text : ∀ s, a.settings fs = .ok s → s.fixturesDir.IsText ∧ s.outputDir.IsText)
    (executor : Settings → Executor) (host : Host) :
    (∀ e, a.Fails fs host e → runWith executor terminal a fs host = ended e fs ∧
      (runWith executor terminal a fs host).code = 2 ∧
      (runWith executor terminal a fs host).stdout = "" ∧
      (runWith executor terminal a fs host).files = fs ∧
      ∀ other : Settings → Executor,
        runWith other terminal a fs host = runWith executor terminal a fs host) ∧
    ((∀ e, ¬a.Fails fs host e) → ∃ s cases rejected, a.settings fs = .ok s ∧
      plan s fs host = .ok (cases, rejected) ∧
      (∀ said, host.refusal? (s.workers.count host) cases.length = some said →
        runWith executor terminal a fs host = ended (.pool said) fs) ∧
      (host.Starts s cases.length → ∃ summary state, summary.rejected = rejected ∧
        runSuite s (executor s) { files := fs } host = .ok (summary, state) ∧
        (executor s).RanEach cases fs summary.cases state ∧
        (runWith executor terminal a fs host).files = state.files ∧
        (runWith executor terminal a fs host).Reports a terminal summary)) := by
  constructor
  · intro e h
    rw [runWith_of_fails h executor]
    exact ⟨rfl, rfl, rfl, rfl, fun other => runWith_of_fails h other⟩
  · intro h
    obtain ⟨s, cases, rejected, hs, hplan⟩ := exists_plan_of_not_fails h
    have accepted := (s.validate_eq_ok_iff fs).mp (validate_of_settings hs)
    have unambiguous := unambiguous_of_plan wf accepted hplan
    have plans := plans_of_mem_plan wf accepted.sound hplan
    obtain ⟨fixtures, output⟩ := text s hs
    refine ⟨s, cases, rejected, hs, hplan, fun said refused => ?_, fun starts => ?_⟩
    · exact runWith_of_halts hs (.unstaffed hplan refused) executor
    · have hran : runSuite s (executor s) { files := fs } host = _ :=
        runSuite_of_plan hplan starts (executor s) rfl
      have heach := ranEach_runInOrder (executor s)
        (fun c hc => (unambiguous.actual_only c hc c hc).2) fs
      obtain ⟨hfiles, hreports⟩ := reports_of_runSuite room hs hran
        (Summary.exists_toJson (isText_of_mem_reports plans fixtures output (executor s) _)
          (isText_of_mem_rejected fixtures hplan))
      exact ⟨_, _, rfl, hran, heach, hfiles, hreports⟩

/-- A command line that asks for the example's run and a document. -/
def exampleArguments : Arguments :=
  { layer := { fixturesDir := some (.ofString "f"), outputDir := some (.ofString "o") }
    format? := some .json }

theorem parsed_example : Arguments.ofWords
    ["--fixtures", "f", "--output", "o", "--format", "json"] = .ok exampleArguments := by
  decide +kernel

theorem settings_example : exampleArguments.settings exampleFiles = .ok exampleSettings := by
  decide +kernel

theorem exit_code_tells_the_worst_example : ∃ summary state,
    runSuite exampleSettings (exampleExit (some 3)) { files := exampleFiles } =
        .ok (summary, state) ∧
      (exampleExit (some 3)).RanEach exampleCases exampleFiles summary.cases state ∧
      (runWith (fun _ => exampleExit (some 3)) {} exampleArguments exampleFiles).Reports
        exampleArguments {} summary := by
  have hsettings : ∀ s, exampleArguments.settings exampleFiles = .ok s → s = exampleSettings := by
    intro s h
    rw [settings_example] at h
    exact (Except.ok.inj h).symm
  have htext : ∀ s, exampleArguments.settings exampleFiles = .ok s →
      s.fixturesDir.IsText ∧ s.outputDir.IsText := by
    intro s h
    exact Arguments.isText_of_settings parsed_example h
  have hfine : ∀ e, ¬exampleArguments.Fails exampleFiles {} e := by
    intro e h
    have hnone : exampleArguments.fileLayer exampleFiles = .ok {} := rfl
    cases h with
    | loading h => rw [hnone] at h; cases h
    | validation file loaded h =>
        rw [hnone] at loaded
        have hvalid : (exampleArguments.layer.over (({} : Layer).over {})).validate exampleFiles =
            .ok () := by decide +kernel
        rw [← Except.ok.inj loaded, hvalid] at h
        cases h
    | discovery s accepted h =>
        have hplan := plan_example
        rw [plan, ← hsettings s accepted, h] at hplan
        cases hplan
  have wf : exampleFiles.WellFormed := by decide +kernel
  have room : Terminal.full {} = false := rfl
  obtain ⟨-, hruns⟩ := exit_code_tells_the_worst wf room htext (fun _ => exampleExit (some 3)) {}
  obtain ⟨s, cases, rejected, hs, hplan, -, hstarted⟩ := hruns hfine
  obtain ⟨summary, state, -, hran, heach, -, hreports⟩ := hstarted (Host.starts_default _ _)
  obtain rfl := hsettings s hs
  rw [plan_example] at hplan
  obtain ⟨rfl, rfl⟩ := Prod.mk.inj (Except.ok.inj hplan)
  exact ⟨summary, state, hran, heach, hreports⟩

end CommandLine

end GoldenFiles
