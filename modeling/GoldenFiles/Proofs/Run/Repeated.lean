import GoldenFiles.Proofs.Run.Extending
import GoldenFiles.Proofs.Run.Isolated

/-!
# Running a suite again

A second run starts on what the first one left: directories that were missing,
outputs that were stale or not there, and whatever a case that failed halfway had
made by then. None of it shows. The plan is the same, because only regular files
directly in the fixture directory are fixtures, and a run neither makes nor changes
one of those, even when its outputs lie deeper in that directory. Each case is
`Ready` again, so it comes to what it came to before. And since nothing is removed
and no entry changes its place, equal entries make the file systems equal.

All this holds whatever the order of the calls in the first run and in the second,
which is why a run is a relation here: `Runs`.
-/

namespace GoldenFiles

open FileSystem

/-- What a run may come to: it halts and nothing is done, or the calls of its cases come
in some order. -/
inductive Runs (host : Host) (s : Settings) (script : Script) (fs : FileSystem) :
    Except RunError Summary → FileSystem → Prop where
  | refused {e : RunError} (h : s.Halts host fs e) : Runs host s script fs (.error e) fs
  | done {cases order : List TestCase} {rejected : List Rejected} {reports : List CaseReport}
      {gs : FileSystem} (h : plan s fs host = .ok (cases, rejected))
      (starts : host.Starts s cases.length) (hp : order.Perm cases)
      (steps : Relation.ReflTransGen Pool.Step ⟨order.map (TestCase.task script), fs⟩
        (Pool.finished reports gs)) :
      Runs host s script fs (.ok ⟨sortedBy CaseReport.id reports, rejected⟩) gs

/-- What a run comes to whose cases are run one after the other. -/
def ranInTurn (host : Host) (s : Settings) (script : Script) (fs : FileSystem) :
    Except RunError Summary × FileSystem :=
  match runSuite s (.scripted script) { files := fs } host with
  | .error e => (.error e, fs)
  | .ok (summary, after) => (.ok summary, after.files)

section Again

variable {s : Settings} {fs gs hs : FileSystem} {host : Host} {cases : List TestCase}
  {rejected : List Rejected} {script : Script}

theorem runs_ranInTurn (host : Host) (s : Settings) (script : Script) (fs : FileSystem) :
    Runs host s script fs (ranInTurn host s script fs).1 (ranInTurn host s script fs).2 := by
  rw [ranInTurn]
  rcases halts_or_starts s host fs with ⟨e, h⟩ | ⟨cases, rejected, h, starts⟩
  · rw [runSuite_of_halts h (.scripted script) rfl]
    exact .refused h
  · rw [runSuite_of_starts h starts (.scripted script) rfl]
    exact .done h starts (List.Perm.refl cases)
      (Pool.steps_runInOrder script cases [] { files := fs })

theorem Runs.of_halts {e : RunError} {result : Except RunError Summary}
    (run : Runs host s script fs result gs) (h : s.Halts host fs e) :
    result = .error e ∧ gs = fs := by
  cases run with
  | refused h' => exact ⟨congrArg Except.error (h'.unique h), rfl⟩
  | done planned starts => exact absurd starts (h.not_starts planned)

theorem Runs.of_plan {result : Except RunError Summary} (run : Runs host s script fs result gs)
    (h : plan s fs host = .ok (cases, rejected)) (starts : host.Starts s cases.length) :
    ∃ (order : List TestCase) (reports : List CaseReport), order.Perm cases ∧
      Relation.ReflTransGen Pool.Step ⟨order.map (TestCase.task script), fs⟩
        (Pool.finished reports gs) ∧
      result = .ok ⟨sortedBy CaseReport.id reports, rejected⟩ := by
  cases run with
  | refused halts => exact absurd starts (halts.not_starts h)
  | done planned _ hp steps =>
      rw [h] at planned
      obtain ⟨rfl, rfl⟩ := Prod.mk.inj (Except.ok.inj planned)
      exact ⟨_, _, hp, steps, rfl⟩

/-! ## The plan -/

/-- What the writers of a run do is not planned for, as long as no output is directly
in the fixture directory. -/
theorem plan_of_holds {w : World} (holds : w.Holds gs)
    (h : plan s w.origin host = .ok (cases, rejected))
    (away : ∀ place, w.origin.stat s.fixturesDir = .ok (place, .directory) →
      ∀ name, name :: place ∉ w.outputs) : plan s gs host = .ok (cases, rejected) := by
  obtain ⟨matched, place, listing, hdir, hl, hcases, hrejected⟩ := (plan_eq_ok_iff ..).mp h
  obtain ⟨nul, hplace⟩ := (Path.access_eq_ok_iff ..).mp hdir
  have hdir' := (Path.access_eq_ok_iff ..).mpr ⟨nul, holds.stat_directory hplace⟩
  obtain ⟨other, hother⟩ : ∃ other, gs.Lists s.fixturesDir place other :=
    exists_lists fun name target he => absurd he (holds.free _ target)
  have hfound : Discovery.ofListing s.scheme other = Discovery.ofListing s.scheme listing := by
    refine Discovery.ofListing_eq_of_files holds.wf w.wf hother hl ?_
    intro listed content executable he
    rw [hother.mem_iff_of_free holds.free, hl.mem_iff_of_free w.free, he,
      holds.file_iff (away place hplace listed.name)]
  refine (plan_eq_ok_iff ..).mpr ⟨matched, place, other, hdir', hother, ?_, ?_⟩
  · rw [hfound]
    exact hcases
  · rw [hfound]
    exact hrejected

theorem plan_again (wf : fs.WellFormed) (free : fs.LinkFree) (valid : s.validate fs = .ok ())
    (up : Path.dotDot ∉ s.outputDir.names) (h : plan s fs host = .ok (cases, rejected))
    (holds : (s.world script cases fs wf free up).Holds gs) :
    plan s gs host = .ok (cases, rejected) := by
  have accepted := (s.validate_eq_ok_iff fs).mp valid
  refine plan_of_holds holds h ?_
  intro place hplace name
  exact not_mem_outputs wf free accepted up hplace cases name

/-! ## Two runs, one after the other -/

section Finished

variable {w : World} {own : TestCase → Location} {order : List TestCase}
  {reports : List CaseReport}

theorem ready_of_finished (finished : List.Forall₂ (fun c report =>
      w.Finished (own c) script c report gs) order reports) (hp : order.Perm cases) :
    ∀ c ∈ cases, w.Ready (own c) script c gs := by
  intro c hc
  obtain ⟨report, -, hfinished⟩ := exists_right_of_forall₂ finished (hp.mem_iff.mpr hc)
  exact hfinished.ready

theorem sortedBy_reports (finished : List.Forall₂ (fun c report =>
      w.Finished (own c) script c report gs) order reports)
    (h : plan s w.origin host = .ok (cases, rejected)) (hp : order.Perm cases) :
    sortedBy CaseReport.id reports = cases.map (TestCase.alone script w.origin) := by
  rw [reports_of_finished finished]
  exact sortedBy_alone script h hp

end Finished

theorem Runs.result_eq {result other : Except RunError Summary} (wf : fs.WellFormed)
    (free : fs.LinkFree) (valid : s.validate fs = .ok ()) (up : Path.dotDot ∉ s.outputDir.names)
    (run : Runs host s script fs result gs) (run' : Runs host s script fs other hs) :
    other = result := by
  rcases halts_or_starts s host fs with ⟨e, h⟩ | ⟨cases, rejected, h, starts⟩
  · rw [(run.of_halts h).1, (run'.of_halts h).1]
  · obtain ⟨order, reports, hp, steps, rfl⟩ := run.of_plan h starts
    obtain ⟨order', reports', hp', steps', rfl⟩ := run'.of_plan h starts
    obtain ⟨-, finished⟩ := finished_of_first_steps wf free valid up h hp steps
    obtain ⟨-, finished'⟩ := finished_of_first_steps wf free valid up h hp' steps'
    rw [sortedBy_reports finished h hp, sortedBy_reports finished' h hp']

/-- A second run comes to the result of the first one and changes nothing. -/
theorem Runs.again {first second : Except RunError Summary} (wf : fs.WellFormed)
    (free : fs.LinkFree) (valid : s.validate fs = .ok ()) (up : Path.dotDot ∉ s.outputDir.names)
    (run : Runs host s script fs first gs) (next : Runs host s script gs second hs) :
    second = first ∧ hs = gs := by
  rcases halts_or_starts s host fs with ⟨e, h⟩ | ⟨cases, rejected, h, starts⟩
  · obtain ⟨rfl, rfl⟩ := run.of_halts h
    exact next.of_halts h
  · obtain ⟨order, reports, hp, steps, rfl⟩ := run.of_plan h starts
    obtain ⟨holds, finished⟩ := finished_of_first_steps wf free valid up h hp steps
    have hplan := plan_again wf free valid up h holds
    have ready := ready_of_finished finished hp
    obtain ⟨order', reports', hp', steps', rfl⟩ := next.of_plan hplan starts
    obtain ⟨holds', finished'⟩ := finished_of_steps wf free valid up h holds ready hp' steps'
    constructor
    · rw [sortedBy_reports finished h hp, sortedBy_reports finished' h hp']
    · have agrees := agrees_of_finished wf free up hp hp' holds holds' finished finished'
      exact (extends_of_steps script steps').eq_of_agrees agrees

end Again

/-- However the calls of a run come to be ordered, it comes to one result, and a second
run comes to the same result and leaves the file system as it is. -/
theorem runs_are_idempotent {s : Settings} {fs : FileSystem} (wf : fs.WellFormed)
    (free : fs.LinkFree) (valid : s.validate fs = .ok ()) (up : .parent ∉ s.outputDir.components)
    (script : Script) (host : Host) :
    Runs host s script fs (ranInTurn host s script fs).1 (ranInTurn host s script fs).2 ∧
    ∀ first gs, Runs host s script fs first gs →
      first = (ranInTurn host s script fs).1 ∧ ranInTurn host s script gs = (first, gs) ∧
      ∀ second hs, Runs host s script gs second hs → second = first ∧ hs = gs := by
  have up : Path.dotDot ∉ s.outputDir.names := mt (Path.parent_mem_components_iff _).mpr up
  refine ⟨runs_ranInTurn host s script fs, ?_⟩
  intro first gs run
  have hagain : ∀ second hs, Runs host s script gs second hs → second = first ∧ hs = gs :=
    fun second hs next => run.again wf free valid up next
  have hresult := Runs.result_eq wf free valid up (runs_ranInTurn host s script fs) run
  obtain ⟨hsummary, hfiles⟩ := hagain _ _ (runs_ranInTurn host s script gs)
  exact ⟨hresult, Prod.ext hsummary hfiles, hagain⟩

/-- The example's settings with the outputs in a directory of the fixtures. -/
def nestedSettings : Settings := { exampleSettings with outputDir := .ofString "f/o" }

/-- The example's files and an old output of the case that will fail. -/
def staleFiles : FileSystem :=
  (exampleFiles.put [Utf8.encode "o", Utf8.encode "f"] .directory).put
    [Utf8.encode "out2.txt", Utf8.encode "o", Utf8.encode "f"] (.file [0x32] false)

theorem list_staleFiles : staleFiles.list (.ofString "f") =
    .ok (exampleListing ++ [⟨Utf8.encode "o", .ofString "f/o", .directory⟩]) := by
  decide +kernel

theorem runs_are_idempotent_example :
    staleFiles.WellFormed ∧ staleFiles.LinkFree ∧ nestedSettings.validate staleFiles = .ok () ∧
      .parent ∉ nestedSettings.outputDir.components ∧
      ∃ summary gs, Runs {} nestedSettings exampleScript staleFiles (.ok summary) gs ∧
        ∀ second hs, Runs {} nestedSettings exampleScript gs second hs →
          second = .ok summary ∧ hs = gs := by
  have wf : staleFiles.WellFormed := by decide +kernel
  have free : staleFiles.LinkFree := by decide +kernel
  have valid : nestedSettings.validate staleFiles = .ok () := by decide +kernel
  have up : .parent ∉ nestedSettings.outputDir.components := by decide +kernel
  obtain ⟨cases, rejected, hplan⟩ : ∃ cases rejected,
      plan nestedSettings staleFiles = .ok (cases, rejected) :=
    ⟨_, _, plan_of_list (Host.matches_default _) list_staleFiles (by decide +kernel)
      (by decide +kernel)⟩
  have hrun : Runs {} nestedSettings exampleScript staleFiles _ _ :=
    .done hplan (Host.starts_default _ _) (List.Perm.refl cases)
      (Pool.steps_runInOrder exampleScript cases [] { files := staleFiles })
  have hagain := (runs_are_idempotent wf free valid up exampleScript {}).2 _ _ hrun
  exact ⟨wf, free, valid, up, _, _, hrun, hagain.2.2⟩

end GoldenFiles
