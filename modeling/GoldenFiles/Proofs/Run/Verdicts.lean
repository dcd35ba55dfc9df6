import GoldenFiles.Proofs.Content.Comparison
import GoldenFiles.Proofs.Run.Judged
import GoldenFiles.Proofs.Run.Pool

/-!
# What decides a verdict

A case whose outputs have different paths is decided in two steps. If the executor
failed, its error is the verdict, and what it left on the file system has no say. If
it succeeded, the two files that it left are the verdict, and the exit code has no
say. Of the files only what reading them comes to matters, so `judge` is described by
the two answers alone: the expected file is asked for first, and it is the one that
is named when neither can be read.

A run makes one call for each of its cases, on the files that the calls before it
left, and so each of its reports follows from a call of its own: `Executor.RanEach`.
-/

namespace GoldenFiles

/-- What reading the file that a path names comes to. -/
def FileSystem.reading (fs : FileSystem) (p : Path) : Except IoError Bytes :=
  p.access (fs.read p)

theorem FileSystem.reading_of_stat {fs : FileSystem} {p : Path} {loc : Location} {content : Bytes}
    {executable : Bool} (h : p.access (fs.stat p) = .ok (loc, .file content executable)) :
    fs.reading p = .ok content := by
  obtain ⟨nul, hstat⟩ := (Path.access_eq_ok_iff ..).mp h
  rw [reading, Path.access_of_not_holdsNul nul, read, hstat]
  rfl

/-- The reason that an error becomes: one of its kind, with the error's own text or
its own limit. -/
inductive FailureReason.Tells : CaseError → FailureReason → Prop where
  | launch (program : Path) (source : IoError) : Tells (.launch program source)
      (.launch ("failed to launch '" ++ program.display ++ "': " ++ source.message))
  | io (path : Path) (source : IoError) :
      Tells (.io path source) (.io (path.display ++ ": " ++ source.message))
  | timedOut (after : Duration) : Tells (.timedOut after) (.timedOut after)

theorem FailureReason.tells_iff (e : CaseError) (reason : FailureReason) :
    Tells e reason ↔ reason = .ofError e := by
  constructor
  · rintro (_ | _ | _) <;> rfl
  · rintro rfl
    cases e with
    | launch program source => exact .launch program source
    | io path source => exact .io path source
    | timedOut after => exact .timedOut after

/-! ## Judging two files -/

section Judge

variable {fs : FileSystem} {artifacts : Artifacts} {actual expected : Bytes} {e : IoError}

theorem judge_of_expected_unreadable (h : fs.reading artifacts.expected = .error e) :
    fs.judge artifacts = .failed (.io (artifacts.expected.display ++ ": " ++ e.message)) := by
  rw [FileSystem.reading] at h
  rw [FileSystem.judge, FileSystem.compareFiles, h]
  rfl

theorem judge_of_actual_unreadable (hexpected : fs.reading artifacts.expected = .ok expected)
    (h : fs.reading artifacts.actual = .error e) :
    fs.judge artifacts = .failed (.io (artifacts.actual.display ++ ": " ++ e.message)) := by
  rw [FileSystem.reading] at hexpected h
  rw [FileSystem.judge, FileSystem.compareFiles, hexpected]
  simp only [h]
  rfl

theorem judge_of_readable (hexpected : fs.reading artifacts.expected = .ok expected)
    (hactual : fs.reading artifacts.actual = .ok actual) :
    fs.judge artifacts = .ofComparison (.ok (Content.compare actual expected)) := by
  rw [FileSystem.reading] at hexpected hactual
  rw [judge_eq_ofComparison, FileSystem.compareFiles, hexpected]
  simp only [hactual]

/-- Whatever the verdict is, it is that of one of three cases. -/
theorem judge_cases (fs : FileSystem) (artifacts : Artifacts) :
    (∃ e, fs.reading artifacts.expected = .error e) ∨
      (∃ expected e, fs.reading artifacts.expected = .ok expected ∧
        fs.reading artifacts.actual = .error e) ∨
      ∃ expected actual, fs.reading artifacts.expected = .ok expected ∧
        fs.reading artifacts.actual = .ok actual := by
  cases hexpected : fs.reading artifacts.expected with
  | error e => exact .inl ⟨e, rfl⟩
  | ok expected =>
      cases hactual : fs.reading artifacts.actual with
      | error e => exact .inr (.inl ⟨expected, e, rfl, rfl⟩)
      | ok actual => exact .inr (.inr ⟨expected, actual, rfl, rfl⟩)

theorem judge_eq_iff (verdict : Verdict) (h : ∀ message, verdict ≠ .failed (.io message)) :
    fs.judge artifacts = verdict ↔ ∃ actual expected, fs.reading artifacts.actual = .ok actual ∧
      fs.reading artifacts.expected = .ok expected ∧
      .ofComparison (.ok (Content.compare actual expected)) = verdict := by
  constructor
  · intro hjudge
    rcases judge_cases fs artifacts with ⟨e, he⟩ | ⟨expected, e, hexpected, he⟩ |
      ⟨expected, actual, hexpected, hactual⟩
    · exact absurd (hjudge.symm.trans (judge_of_expected_unreadable he)) (h _)
    · exact absurd (hjudge.symm.trans (judge_of_actual_unreadable hexpected he)) (h _)
    · exact ⟨actual, expected, hactual, hexpected,
        (judge_of_readable hexpected hactual).symm.trans hjudge⟩
  · rintro ⟨actual, expected, hactual, hexpected, rfl⟩
    exact judge_of_readable hexpected hactual

theorem ofComparison_eq_passed_iff (actual expected : Bytes) :
    Verdict.ofComparison (.ok (Content.compare actual expected)) = .passed ↔
      Content.lines actual = Content.lines expected := by
  rw [← Content.compare_eq_equal_iff]
  cases Content.compare actual expected <;> simp [Verdict.ofComparison]

theorem ofComparison_eq_mismatch_iff (comparison : Content.Comparison) (m : Content.Mismatch) :
    Verdict.ofComparison (.ok comparison) = .failed (.mismatch m) ↔ comparison = .differ m := by
  cases comparison <;> simp [Verdict.ofComparison]

theorem judge_congr {gs : FileSystem}
    (hactual : fs.reading artifacts.actual = gs.reading artifacts.actual)
    (hexpected : fs.reading artifacts.expected = gs.reading artifacts.expected) :
    fs.judge artifacts = gs.judge artifacts := by
  simp only [FileSystem.reading] at hactual hexpected
  rw [FileSystem.judge, FileSystem.judge, FileSystem.compareFiles, FileSystem.compareFiles,
    hactual, hexpected]

end Judge

/-! ## Judging a case -/

section Case

variable {execute : Executor} {c : TestCase}

/-- Once the program may be started, the report is a function of how it ended and of
the files that it left. -/
theorem runCase_report (apart : ¬c.artifacts.actual.Same c.artifacts.expected) (s : RunState) :
    (runCase execute c s).1 = match execute c.input c.artifacts.actual s.files with
      | ⟨.error e, _, _⟩ => c.report (.failed (.ofError e)) none
      | ⟨.ok code, files, _⟩ => c.report (files.judge c.artifacts) code := by
  unfold runCase
  simp only [if_neg apart]
  obtain ⟨_ | _, files, stderr⟩ := execute c.input c.artifacts.actual s.files <;> rfl

theorem runCase_report_of_error (apart : ¬c.artifacts.actual.Same c.artifacts.expected)
    {s : RunState} {e : CaseError}
    (h : (execute c.input c.artifacts.actual s.files).result = .error e) :
    (runCase execute c s).1 = c.report (.failed (.ofError e)) none := by
  rw [runCase_report apart]
  generalize execute c.input c.artifacts.actual s.files = done at h ⊢
  obtain ⟨result, files, stderr⟩ := done
  subst h
  rfl

theorem runCase_report_of_ok (apart : ¬c.artifacts.actual.Same c.artifacts.expected)
    {s : RunState} {code : ExitCode}
    (h : (execute c.input c.artifacts.actual s.files).result = .ok code) :
    (runCase execute c s).1 =
      c.report ((execute c.input c.artifacts.actual s.files).files.judge c.artifacts) code := by
  rw [runCase_report apart]
  generalize execute c.input c.artifacts.actual s.files = done at h ⊢
  obtain ⟨result, files, stderr⟩ := done
  subst h
  rfl

end Case

/-- A report that follows from how an executor ended and, where it succeeded, from the
two files that it left. -/
structure CaseReport.FollowsFrom (report : CaseReport) (c : TestCase) (done : Invocation) :
    Prop where
  passed_iff : report.verdict = .passed ↔ (∃ code, done.result = .ok code) ∧
    ∃ actual expected, done.files.reading c.artifacts.actual = .ok actual ∧
      done.files.reading c.artifacts.expected = .ok expected ∧
      Content.lines actual = Content.lines expected
  mismatch_iff : ∀ m, report.verdict = .failed (.mismatch m) ↔ (∃ code, done.result = .ok code) ∧
    ∃ actual expected, done.files.reading c.artifacts.actual = .ok actual ∧
      done.files.reading c.artifacts.expected = .ok expected ∧
      Content.lines actual ≠ Content.lines expected ∧ Content.compare actual expected = .differ m
  expected_unreadable : ∀ code e, done.result = .ok code →
    done.files.reading c.artifacts.expected = .error e →
    report.verdict = .failed (.io (c.artifacts.expected.display ++ ": " ++ e.message))
  actual_unreadable : ∀ code expected e, done.result = .ok code →
    done.files.reading c.artifacts.expected = .ok expected →
    done.files.reading c.artifacts.actual = .error e →
    report.verdict = .failed (.io (c.artifacts.actual.display ++ ": " ++ e.message))
  /-- The failure of an executor is the verdict. -/
  told : ∀ e, done.result = .error e →
    ∃ reason, FailureReason.Tells e reason ∧ report.verdict = .failed reason
  exitCode_of_ok : ∀ code, done.result = .ok code → report.exitCode = code
  exitCode_of_error : ∀ e, done.result = .error e → report.exitCode = none

theorem followsFrom_of_error (c : TestCase) {done : Invocation} {e : CaseError}
    (h : done.result = .error e) :
    (c.report (.failed (.ofError e)) none).FollowsFrom c done := by
  have hno (code : ExitCode) : done.result ≠ .ok code := fun hok => by rw [h] at hok; cases hok
  refine ⟨?_, fun m => ?_, fun code _ hok => absurd hok (hno code),
    fun code _ _ hok => absurd hok (hno code), fun e' he => ?_, fun code hok => absurd hok (hno code),
    fun _ _ => rfl⟩
  · exact iff_of_false Verdict.noConfusion fun ⟨⟨code, hok⟩, _⟩ => hno code hok
  · refine iff_of_false (fun hm => ?_) fun ⟨⟨code, hok⟩, _⟩ => hno code hok
    cases e <;> cases hm
  · obtain rfl := Except.error.inj (h.symm.trans he)
    exact ⟨_, (FailureReason.tells_iff ..).mpr rfl, rfl⟩

theorem followsFrom_of_ok (c : TestCase) {done : Invocation} {code : ExitCode}
    (h : done.result = .ok code) :
    (c.report (done.files.judge c.artifacts) code).FollowsFrom c done := by
  have hno (e : CaseError) : done.result ≠ .error e := fun he => by rw [h] at he; cases he
  refine ⟨?_, fun m => ?_, fun _ e _ he => judge_of_expected_unreadable he,
    fun _ expected e _ hexpected he => judge_of_actual_unreadable hexpected he,
    fun e he => absurd he (hno e), fun code' hok => Except.ok.inj (h.symm.trans hok),
    fun e he => absurd he (hno e)⟩
  · show done.files.judge c.artifacts = .passed ↔ _
    rw [judge_eq_iff .passed (by simp)]
    simp only [ofComparison_eq_passed_iff, h, Except.ok.injEq, exists_eq', true_and]
  · show done.files.judge c.artifacts = .failed (.mismatch m) ↔ _
    rw [judge_eq_iff (.failed (.mismatch m)) (by simp)]
    simp only [ofComparison_eq_mismatch_iff, h, Except.ok.injEq, exists_eq', true_and]
    refine exists₂_congr fun actual expected => and_congr_right fun _ => and_congr_right fun _ => ?_
    refine ⟨fun hm => ⟨fun heq => ?_, hm⟩, And.right⟩
    rw [(Content.compare_eq_equal_iff actual expected).mpr heq] at hm
    cases hm

/-- The report on a case follows from the call for it. -/
theorem runCase_follows (execute : Executor) {c : TestCase}
    (apart : ¬c.artifacts.actual.Same c.artifacts.expected) (s : RunState) :
    (runCase execute c s).1.FollowsFrom c (execute c.input c.artifacts.actual s.files) := by
  cases h : (execute c.input c.artifacts.actual s.files).result with
  | error e => exact runCase_report_of_error apart h ▸ followsFrom_of_error c h
  | ok code => exact runCase_report_of_ok apart h ▸ followsFrom_of_ok c h

/-- The report on a case follows from how its executor ended and from the files that
it left. Two executors that succeed get one verdict if they leave files that read
alike, and two that fail alike get one report whatever they leave. -/
theorem verdict_decided_by_artifacts {c : TestCase}
    (apart : ¬c.artifacts.actual.Same c.artifacts.expected) :
    (∀ (execute : Executor) (s : RunState), (runCase execute c s).1.FollowsFrom c
      (execute c.input c.artifacts.actual s.files)) ∧
    (∀ (first second : Executor) (s t : RunState) (code code' : ExitCode),
      (first c.input c.artifacts.actual s.files).result = .ok code →
      (second c.input c.artifacts.actual t.files).result = .ok code' →
      (∀ p, p = c.artifacts.actual ∨ p = c.artifacts.expected →
        (first c.input c.artifacts.actual s.files).files.reading p =
          (second c.input c.artifacts.actual t.files).files.reading p) →
      (runCase first c s).1.verdict = (runCase second c t).1.verdict) ∧
    (∀ (first second : Executor) (s t : RunState) (e : CaseError),
      (first c.input c.artifacts.actual s.files).result = .error e →
      (second c.input c.artifacts.actual t.files).result = .error e →
      (runCase first c s).1 = (runCase second c t).1) := by
  refine ⟨fun execute s => runCase_follows execute apart s,
    fun first second s t code code' hfirst hsecond hfiles => ?_,
    fun first second s t e hfirst hsecond => ?_⟩
  · rw [runCase_report_of_ok apart hfirst, runCase_report_of_ok apart hsecond]
    exact judge_congr (hfiles _ (.inl rfl)) (hfiles _ (.inr rfl))
  · rw [runCase_report_of_error apart hfirst, runCase_report_of_error apart hsecond]

/-- The first of the example cases. -/
def exampleCase : TestCase :=
  ⟨⟨"1"⟩, .ofString "f/in1.py", ⟨.ofString "o/out1.txt", .ofString "f/out1.txt"⟩⟩

/-- A program that writes the expected line and then fails with some code. -/
def exampleExit (code : ExitCode) : Executor :=
  .prepared [(Utf8.encode "in1.py", .exits (some [0x31, 0x0d, 0x0a]) code)]

/-- The line ends differ and the program failed, and yet the case has passed. -/
theorem verdict_decided_by_artifacts_example :
    ¬exampleCase.artifacts.actual.Same exampleCase.artifacts.expected ∧
      (runCase (exampleExit (some 3)) exampleCase ⟨exampleFiles, [], []⟩).1.verdict = .passed ∧
      (runCase (exampleExit (some 3)) exampleCase ⟨exampleFiles, [], []⟩).1.exitCode = some 3 ∧
      (runCase (exampleExit none) exampleCase ⟨exampleFiles, [], []⟩).1.verdict = .passed := by
  have apart : ¬exampleCase.artifacts.actual.Same exampleCase.artifacts.expected := by decide +kernel
  obtain ⟨follows, alike, -⟩ := verdict_decided_by_artifacts apart
  have hok (code : ExitCode) (h : code = some 3 ∨ code = none) :
      (exampleExit code exampleCase.input exampleCase.artifacts.actual exampleFiles).result =
        .ok code := by
    rcases h with rfl | rfl <;> decide +kernel
  have hfollows := follows (exampleExit (some 3)) ⟨exampleFiles, [], []⟩
  have hpassed := hfollows.passed_iff.mpr ⟨⟨some 3, hok _ (.inl rfl)⟩, [0x31, 0x0d, 0x0a], [0x31],
    by decide +kernel, by decide +kernel, by decide +kernel⟩
  refine ⟨apart, hpassed, hfollows.exitCode_of_ok _ (hok _ (.inl rfl)), ?_⟩
  rw [← hpassed]
  refine alike _ _ _ _ none (some 3) (hok _ (.inr rfl)) (hok _ (.inl rfl)) ?_
  rintro p (rfl | rfl) <;> decide +kernel

/-! ## Judging all cases of a run -/

/-- What a run comes to that called an executor for each of some cases, once and in turn. -/
structure Executor.RanEach (execute : Executor) (cases : List TestCase) (fs : FileSystem)
    (reports : List CaseReport) (state : RunState) : Prop where
  /-- The files are what the calls left, each on the files of the one before. -/
  files_eq : state.files = execute.runAll cases fs
  started_eq : state.started = cases.map TestCase.input
  testCases_eq : reports.map CaseReport.testCase = cases
  /-- Each report follows from the call for its case. -/
  follows : ∀ before c after, cases = before ++ c :: after →
    ∃ report, reports[before.length]? = some report ∧ report.testCase = c ∧
      report.FollowsFrom c (execute c.input c.artifacts.actual (execute.runAll before fs))

/-- Each report of a run follows from a call on what the calls before it left. -/
theorem runInOrder_follows (execute : Executor) {before after : List TestCase} {c : TestCase}
    (apart : ∀ d ∈ before ++ c :: after, ¬d.artifacts.actual.Same d.artifacts.expected)
    (state : RunState) :
    ∃ report, (runInOrder execute (before ++ c :: after) state).1[before.length]? = some report ∧
      report.testCase = c ∧ report.FollowsFrom c
        (execute c.input c.artifacts.actual (execute.runAll before state.files)) := by
  induction before generalizing state with
  | nil =>
      have hc := apart c List.mem_cons_self
      exact ⟨_, rfl, runCase_testCase execute c state, runCase_follows execute hc state⟩
  | cons d before ih =>
      obtain ⟨hd, hrest⟩ := List.forall_mem_cons.mp apart
      obtain ⟨-, hfiles⟩ := runCase_calls execute hd state
      obtain ⟨report, hreport, hcase, hfollows⟩ := ih hrest (runCase execute d state).2
      rw [hfiles] at hfollows
      exact ⟨report, hreport, hcase, hfollows⟩

theorem ranEach_runInOrder (execute : Executor) {cases : List TestCase}
    (apart : ∀ c ∈ cases, ¬c.artifacts.actual.Same c.artifacts.expected) (fs : FileSystem) :
    execute.RanEach cases fs (runInOrder execute cases { files := fs }).1
      (runInOrder execute cases { files := fs }).2 := by
  obtain ⟨hstarted, hfiles⟩ := runInOrder_calls execute apart { files := fs }
  refine ⟨hfiles, hstarted, runInOrder_testCases execute cases { files := fs }, ?_⟩
  rintro before c after rfl
  exact runInOrder_follows execute apart { files := fs }

end GoldenFiles
