import GoldenFiles.Proofs.Run.Judged
import GoldenFiles.Proofs.Run.Writing

/-!
# Cases do not notice each other

A pool may interleave the calls of its cases in any way it likes: each case is
reported as if it had been run alone, on the file system as it was before the
first of them, and the file system is in the end what it is after running the
cases one by one. So a case that fails changes no other verdict, and leaving cases
out by a filter does not change what is said of the rest.

Two things about the settings are needed. No output may be another case's, or an
expected one: that is what their acceptance and the naming of outputs give. And the
output directory must not go up, for then making it may change where it is.
-/

namespace GoldenFiles

open FileSystem

/-- The report on a case that is run alone. -/
def TestCase.alone (script : Script) (fs : FileSystem) (c : TestCase) : CaseReport :=
  (runCase (.scripted script) c { files := fs }).1

namespace Settings

/-- The place where outputs go. -/
def outputPlace (s : Settings) (fs : FileSystem) : Location :=
  destination (start fs.here s.outputDir) s.outputDir.names

/-- The places above it that a run may make directories. -/
def outputWay (s : Settings) (fs : FileSystem) : List Location :=
  trail (start fs.here s.outputDir) s.outputDir.names

/-- The place of an output. -/
def outputOf (s : Settings) (fs : FileSystem) (c : TestCase) : Location :=
  s.outputFile c.id :: s.outputPlace fs

/-- What the cases of a run may do between them. Directories are only made if some
case writes. -/
def world (s : Settings) (script : Script) (cases : List TestCase) (fs : FileSystem)
    (wf : fs.WellFormed) (free : fs.LinkFree) (up : Path.dotDot ∉ s.outputDir.names) : World where
  origin := fs
  places :=
    if cases.any (fun c => (script c.input).isOk) = true ∧ Nameable s.outputDir then
      fs.clear (s.outputWay fs)
    else []
  outputs := cases.map (s.outputOf fs)
  wf := wf
  free := free
  apart := by
    intro loc hloc hout
    obtain ⟨c, -, rfl⟩ := List.mem_map.mp hout
    split at hloc
    · have hmem := (List.takeWhile_prefix _).subset hloc
      have hlen := (suffix_of_mem_trail up _ hmem).2.length_le
      rw [outputOf, List.length_cons, outputPlace] at hlen
      omega
    · cases hloc

section World

variable {s : Settings} {fs : FileSystem} {script : Script} {cases : List TestCase}
  {wf : fs.WellFormed} {free : fs.LinkFree} {up : Path.dotDot ∉ s.outputDir.names}

theorem mem_places_iff {loc : Location} :
    loc ∈ (s.world script cases fs wf free up).places ↔
      (∃ c ∈ cases, (script c.input).isOk = true) ∧ Nameable s.outputDir ∧
        loc ∈ fs.clear (s.outputWay fs) := by
  unfold world
  simp only []
  split
  · next h => exact ⟨fun hloc => ⟨List.any_eq_true.mp h.1, h.2, hloc⟩, fun hloc => hloc.2.2⟩
  · next h =>
      refine iff_of_false List.not_mem_nil ?_
      rintro ⟨hany, hname, -⟩
      exact h ⟨List.any_eq_true.mpr hany, hname⟩

theorem serves_world {c : TestCase} (hc : c ∈ cases) (hok : (script c.input).isOk = true) :
    (s.world script cases fs wf free up).Serves s.outputDir where
  up := up
  output loc hloc := by
    obtain ⟨d, -, rfl⟩ := List.mem_map.mp hloc
    exact ⟨_, rfl⟩
  reach hname _ hloc := mem_places_iff.mpr ⟨⟨c, hc, hok⟩, hname, hloc⟩
  only _ hloc := (mem_places_iff.mp hloc).2

end World

end Settings

section Isolation

variable {s : Settings} {fs : FileSystem} {host : Host} {cases : List TestCase}
  {rejected : List Rejected} {script : Script}

theorem outputPlace_ne (wf : fs.WellFormed) (free : fs.LinkFree) (accepted : s.Accepted fs)
    (up : Path.dotDot ∉ s.outputDir.names) {place : Location}
    (h : fs.stat s.fixturesDir = .ok (place, .directory)) : s.outputPlace fs ≠ place := by
  intro heq
  refine accepted.destination_ne wf free h (directory_of_mem_trail wf up ?_) heq
  rw [show destination _ _ = place from heq]
  exact directory_of_stat wf free h

/-- No output is directly in the fixture directory. -/
theorem not_mem_outputs (wf : fs.WellFormed) (free : fs.LinkFree) (accepted : s.Accepted fs)
    (up : Path.dotDot ∉ s.outputDir.names) {place : Location}
    (h : fs.stat s.fixturesDir = .ok (place, .directory)) (cases : List TestCase) (name : Name) :
    name :: place ∉ cases.map (s.outputOf fs) := by
  intro hmem
  obtain ⟨c, -, hc⟩ := List.mem_map.mp hmem
  exact outputPlace_ne wf free accepted up h (List.cons.inj hc).2

/-- A file system on which a case has not been run, or has been run already. -/
structure FileSystem.World.Ready (w : World) (own : Location) (script : Script) (c : TestCase)
    (fs : FileSystem) : Prop where
  holds : w.Holds fs
  own_eq : fs.entry? own = w.origin.entry? own ∨
    fs.entry? own = (runCase (.scripted script) c { files := w.origin }).2.files.entry? own

theorem FileSystem.World.ready_origin (w : World) (own : Location) (script : Script)
    (c : TestCase) : w.Ready own script c w.origin := ⟨w.holds_origin, .inl rfl⟩

/-- What a case has come to when it is done. -/
structure FileSystem.World.Finished (w : World) (own : Location) (script : Script) (c : TestCase)
    (report : CaseReport) (fs : FileSystem) : Prop where
  report_eq : report = c.alone script w.origin
  there : w.At own ((runCase (.scripted script) c { files := w.origin }).2.files.entry? own) fs
  places : (script c.input).isOk = true → fs.Stands w.places

theorem FileSystem.World.Finished.ready {w : World} {own : Location} {c : TestCase}
    {report : CaseReport} (h : w.Finished own script c report fs) : w.Ready own script c fs :=
  ⟨h.there.holds, .inr h.there.own_eq⟩

/-- In the world of a plan each case comes to what it comes to alone, and it makes no
difference whether it has been run before. -/
theorem safe_case (wf : fs.WellFormed) (free : fs.LinkFree) (valid : s.validate fs = .ok ())
    (up : Path.dotDot ∉ s.outputDir.names) (h : plan s fs host = .ok (cases, rejected))
    {c : TestCase} (hc : c ∈ cases) {gs : FileSystem}
    (ready : (s.world script cases fs wf free up).Ready (s.outputOf fs c) script c gs) :
    (c.task script).Safe ((s.world script cases fs wf free up).terms (s.outputOf fs c))
      ((s.world script cases fs wf free up).Finished (s.outputOf fs c) script c) gs := by
  have accepted := (s.validate_eq_ok_iff fs).mp valid
  have plans := plans_of_mem_plan wf accepted.sound h c hc
  obtain ⟨-, place, -, hdir, -⟩ := (plan_eq_ok_iff ..).mp h
  have hplace := ((Path.access_eq_ok_iff ..).mp hdir).2
  have henter : fs.enter (start fs.here s.fixturesDir.trimmed) s.fixturesDir.trimmed.names =
      .ok place := by
    rw [start, Path.isAbsolute_trimmed, Path.names_trimmed]
    exact enter_of_stat free hplace
  have hout := not_mem_outputs wf free accepted up hplace cases (s.outputFile c.id)
  obtain ⟨expected, hexpected⟩ := exists_read (s.world script cases fs wf free up) henter hout
    plans.output_normal
  rw [← plans.expected_eq] at hexpected
  obtain ⟨report, after, hsafe⟩ := exists_safe_task (w := s.world script cases fs wf free up)
    script (Settings.serves_world hc) (List.mem_map.mpr ⟨c, hc, rfl⟩) plans.output_normal plans.actual_eq
    ((unambiguous_of_plan wf accepted h).actual_only c hc c hc).2 hexpected
    (fs.entry? (s.outputOf fs c))
  have halone := (hsafe _ fs (.inl rfl) ⟨World.holds_origin _, rfl⟩).run
  rw [run_task script c { files := fs }] at halone
  obtain ⟨hreport, hafter, -⟩ := halone
  have hfound := ready.own_eq.imp_right fun heq => heq.trans hafter.own_eq
  refine (hsafe _ gs hfound ⟨ready.holds, rfl⟩).mono ?_
  rintro r hs ⟨hr, hat, hplaces⟩
  exact ⟨hr.trans hreport.symm, ⟨hat.holds, hat.own_eq.trans hafter.own_eq.symm⟩, hplaces⟩

theorem compatible_of_plan (script : Script) (wf : fs.WellFormed) (free : fs.LinkFree)
    (up : Path.dotDot ∉ s.outputDir.names) (h : plan s fs host = .ok (cases, rejected))
    {order : List TestCase} (hp : order.Perm cases) : Pool.Compatible
      (fun c => (s.world script cases fs wf free up).terms (s.outputOf fs c)) order := by
  have hids : order.Pairwise fun c d => c.id ≠ d.id :=
    hp.symm.pairwise (pairwise_ids_of_plan h) fun hne => hne.symm
  refine hids.imp_of_mem fun {c d} hc hd hne => ?_
  have hout : s.outputOf fs c ≠ s.outputOf fs d :=
    fun heq => hne (s.outputFile_injective (List.cons.inj heq).1)
  have hmem (e : TestCase) (he : e ∈ order) :
      s.outputOf fs e ∈ (s.world script cases fs wf free up).outputs :=
    List.mem_map.mpr ⟨e, hp.mem_iff.mp he, rfl⟩
  exact ⟨World.terms_le _ (hmem d hd) hout.symm, World.terms_le _ (hmem c hc) hout⟩

theorem finished_of_steps (wf : fs.WellFormed) (free : fs.LinkFree) (valid : s.validate fs = .ok ())
    (up : Path.dotDot ∉ s.outputDir.names) (h : plan s fs host = .ok (cases, rejected))
    {gs : FileSystem} (holds : (s.world script cases fs wf free up).Holds gs)
    (ready : ∀ c ∈ cases, (s.world script cases fs wf free up).Ready (s.outputOf fs c) script c gs)
    {order : List TestCase} (hp : order.Perm cases) {reports : List CaseReport} {hs : FileSystem}
    (steps : Relation.ReflTransGen Pool.Step ⟨order.map (TestCase.task script), gs⟩
      (Pool.finished reports hs)) :
    (s.world script cases fs wf free up).Holds hs ∧ List.Forall₂ (fun c report =>
      (s.world script cases fs wf free up).Finished (s.outputOf fs c) script c report hs)
        order reports := by
  have hsafe : Pool.Safe (fun c => (s.world script cases fs wf free up).terms (s.outputOf fs c))
      (fun c => (s.world script cases fs wf free up).Finished (s.outputOf fs c) script c) order
      ⟨order.map (TestCase.task script), gs⟩ := by
    refine List.forall₂_map_right_iff.mpr (List.forall₂_same.mpr fun c hc => ?_)
    exact safe_case wf free valid up h (hp.mem_iff.mp hc) (ready c (hp.mem_iff.mp hc))
  have compatible := compatible_of_plan script wf free up h hp
  refine ⟨?_, Pool.post_of_finished (Pool.safe_of_steps compatible hsafe steps)⟩
  exact Pool.invariant_of_steps compatible hsafe (fun c _ fs gs hg hfs => (hg hfs).holds) holds
    steps

theorem finished_of_first_steps (wf : fs.WellFormed) (free : fs.LinkFree)
    (valid : s.validate fs = .ok ()) (up : Path.dotDot ∉ s.outputDir.names)
    (h : plan s fs host = .ok (cases, rejected)) {order : List TestCase} (hp : order.Perm cases)
    {reports : List CaseReport} {gs : FileSystem} (steps : Relation.ReflTransGen Pool.Step
      ⟨order.map (TestCase.task script), fs⟩ (Pool.finished reports gs)) :
    (s.world script cases fs wf free up).Holds gs ∧ List.Forall₂ (fun c report =>
      (s.world script cases fs wf free up).Finished (s.outputOf fs c) script c report gs)
        order reports :=
  finished_of_steps wf free valid up h (World.holds_origin _)
    (fun _ _ => World.ready_origin _ _ _ _) hp steps

theorem agrees_of_finished (wf : fs.WellFormed) (free : fs.LinkFree)
    (up : Path.dotDot ∉ s.outputDir.names) {order other : List TestCase} (hp : order.Perm cases)
    (hp' : other.Perm cases) {reports reports' : List CaseReport} {gs hs : FileSystem}
    (holds : (s.world script cases fs wf free up).Holds gs)
    (holds' : (s.world script cases fs wf free up).Holds hs)
    (h : List.Forall₂ (fun c report => (s.world script cases fs wf free up).Finished
      (s.outputOf fs c) script c report gs) order reports)
    (h' : List.Forall₂ (fun c report => (s.world script cases fs wf free up).Finished
      (s.outputOf fs c) script c report hs) other reports') : gs.Agrees hs := by
  have hcase {c : TestCase} (hc : c ∈ cases) := exists_right_of_forall₂ h (hp.mem_iff.mpr hc)
  have hcase' {c : TestCase} (hc : c ∈ cases) := exists_right_of_forall₂ h' (hp'.mem_iff.mpr hc)
  refine ⟨holds.here_eq.trans holds'.here_eq.symm, fun loc => ?_⟩
  by_cases hout : loc ∈ (s.world script cases fs wf free up).outputs
  · obtain ⟨c, hc, rfl⟩ := List.mem_map.mp hout
    obtain ⟨report, -, hfinished⟩ := hcase hc
    obtain ⟨report', -, hfinished'⟩ := hcase' hc
    rw [hfinished.there.own_eq, hfinished'.there.own_eq]
  · by_cases hplace : loc ∈ (s.world script cases fs wf free up).places
    · obtain ⟨⟨c, hc, hok⟩, -⟩ := Settings.mem_places_iff.mp hplace
      obtain ⟨report, -, hfinished⟩ := hcase hc
      obtain ⟨report', -, hfinished'⟩ := hcase' hc
      rw [hfinished.places hok loc hplace, hfinished'.places hok loc hplace]
    · rw [holds.unchanged hout hplace, holds'.unchanged hout hplace]

theorem alone_id (script : Script) (fs : FileSystem) (c : TestCase) :
    (c.alone script fs).id = c.id := runCase_id ..

theorem ascending_alone (script : Script) (fs : FileSystem) (h : Ascending TestCase.id cases) :
    Ascending CaseReport.id (cases.map (TestCase.alone script fs)) := by
  refine Ascending.map.mpr (h.imp fun {c d} hlt => ?_)
  simpa only [alone_id] using hlt

theorem reports_of_finished {w : World} {own : TestCase → Location} {order : List TestCase}
    {reports : List CaseReport} {gs : FileSystem}
    (h : List.Forall₂ (fun c report => w.Finished (own c) script c report gs) order reports) :
    reports = order.map (TestCase.alone script w.origin) := by
  have heq : List.Forall₂ (· = ·) (order.map (TestCase.alone script w.origin)) reports :=
    List.forall₂_map_left_iff.mpr (h.imp fun c report hfinished => hfinished.report_eq.symm)
  rw [List.forall₂_eq_eq_eq] at heq
  exact heq.symm

theorem sortedBy_alone (script : Script) (h : plan s fs host = .ok (cases, rejected))
    {order : List TestCase} (hp : order.Perm cases) :
    sortedBy CaseReport.id (order.map (TestCase.alone script fs)) =
      cases.map (TestCase.alone script fs) := by
  have hascending := ascending_alone script fs (ascending_of_plan h)
  have hdiffer := hascending.keysDiffer.perm (hp.symm.map (TestCase.alone script fs))
  rw [sortedBy_eq_of_perm hdiffer (hp.map _), sortedBy_of_ascending hascending]

/-! ## In any order, and all at once -/

/-- Cases of which none notices what the others do. -/
structure Isolated (script : Script) (cases : List TestCase) (fs : FileSystem) : Prop where
  /-- However far a pool has got, it can come to its end. -/
  ends : ∀ pool, Relation.ReflTransGen Pool.Step ⟨cases.map (TestCase.task script), fs⟩ pool →
    ∃ reports gs, Relation.ReflTransGen Pool.Step pool (Pool.finished reports gs)
  /-- Whatever the order of their calls, the cases end as they would alone, and together
  as one after the other. -/
  in_pool : ∀ order : List TestCase, order.Perm cases → ∀ reports gs,
    Relation.ReflTransGen Pool.Step ⟨order.map (TestCase.task script), fs⟩
      (Pool.finished reports gs) →
    reports = order.map (TestCase.alone script fs) ∧
      sortedBy CaseReport.id reports = (runCases (.scripted script) cases { files := fs }).1 ∧
      gs.Agrees (runCases (.scripted script) cases { files := fs }).2.files
  in_turn : ∀ order : List TestCase, order.Perm cases →
    (runInOrder (.scripted script) order { files := fs }).1 =
        order.map (TestCase.alone script fs) ∧
      (runCases (.scripted script) order { files := fs }).1 =
        (runCases (.scripted script) cases { files := fs }).1 ∧
      (runCases (.scripted script) order { files := fs }).2.files.Agrees
        (runCases (.scripted script) cases { files := fs }).2.files

theorem isolated_of_plan (wf : fs.WellFormed) (free : fs.LinkFree) (valid : s.validate fs = .ok ())
    (up : Path.dotDot ∉ s.outputDir.names) (h : plan s fs host = .ok (cases, rejected))
    (script : Script) : Isolated script cases fs := by
  -- running cases in turn is one of the ways in which a pool can run them
  have hturn (order : List TestCase) : Relation.ReflTransGen Pool.Step
      ⟨order.map (TestCase.task script), fs⟩
      (Pool.finished (runInOrder (.scripted script) order { files := fs }).1
        (runInOrder (.scripted script) order { files := fs }).2.files) :=
    Pool.steps_runInOrder script order [] { files := fs }
  have hreports {order : List TestCase} (hp : order.Perm cases) {reports : List CaseReport}
      {gs : FileSystem} (steps : Relation.ReflTransGen Pool.Step
        ⟨order.map (TestCase.task script), fs⟩ (Pool.finished reports gs)) :
      reports = order.map (TestCase.alone script fs) :=
    reports_of_finished (finished_of_first_steps wf free valid up h hp steps).2
  have hsorted {order : List TestCase} (hp : order.Perm cases) :
      sortedBy CaseReport.id (order.map (TestCase.alone script fs)) =
        (runCases (.scripted script) cases { files := fs }).1 := by
    show _ = sortedBy CaseReport.id (runInOrder (.scripted script) cases { files := fs }).1
    rw [hreports (List.Perm.refl cases) (hturn cases), sortedBy_alone script h hp,
      sortedBy_alone script h (List.Perm.refl cases)]
  have hfiles {order : List TestCase} (hp : order.Perm cases) {reports : List CaseReport}
      {gs : FileSystem} (steps : Relation.ReflTransGen Pool.Step
        ⟨order.map (TestCase.task script), fs⟩ (Pool.finished reports gs)) :
      gs.Agrees (runCases (.scripted script) cases { files := fs }).2.files := by
    obtain ⟨holds, hall⟩ := finished_of_first_steps wf free valid up h hp steps
    obtain ⟨holds', hall'⟩ :=
      finished_of_first_steps wf free valid up h (List.Perm.refl cases) (hturn cases)
    exact agrees_of_finished wf free up hp (List.Perm.refl cases) holds holds' hall hall'
  refine ⟨?_, ?_, ?_⟩
  · intro pool _
    obtain ⟨reports, gs, hsteps⟩ := Pool.exists_finished [] pool.tasks pool.files
    exact ⟨_, gs, hsteps⟩
  · intro order hp reports gs steps
    have hr := hreports hp steps
    exact ⟨hr, hr ▸ hsorted hp, hfiles hp steps⟩
  · intro order hp
    have hr := hreports hp (hturn order)
    refine ⟨hr, ?_, hfiles hp (hturn order)⟩
    show sortedBy CaseReport.id (runInOrder (.scripted script) order { files := fs }).1 = _
    rw [← hsorted hp, ← hr]

theorem exists_plan_without_filter (h : plan s fs host = .ok (cases, rejected)) :
    ∃ all, plan { s with filter := none } fs host = .ok (all, rejected) ∧
      cases = all.filter (s.selects ·.id) := by
  obtain ⟨matched, loc, listing, hdir, hl, rfl, rfl⟩ := (plan_eq_ok_iff ..).mp h
  refine ⟨_, (plan_eq_ok_iff ..).mpr ⟨matched, loc, listing, hdir, hl, rfl, rfl⟩, ?_⟩
  have hall : (fun fixture : Fixture => Settings.selects { s with filter := none } fixture.id) =
      fun _ => true := rfl
  rw [hall, List.filter_true, List.filter_map]
  rfl

/-- The cases of a plan are isolated, and so a run with a filter reports what the run
without it does on the cases that it lets through, if workers are there for both. -/
theorem planned_cases_are_isolated (wf : fs.WellFormed) (free : fs.LinkFree)
    (valid : s.validate fs = .ok ()) (up : .parent ∉ s.outputDir.components)
    (h : plan s fs host = .ok (cases, rejected)) (script : Script) :
    Isolated script cases fs ∧
    ((∀ count, host.Starts s count) → ∃ summary after all afterAll,
      runSuite s (.scripted script) { files := fs } host = .ok (summary, after) ∧
      runSuite { s with filter := none } (.scripted script) { files := fs } host =
        .ok (all, afterAll) ∧
      summary.cases = all.cases.filter fun report => s.selects report.id) := by
  have up : Path.dotDot ∉ s.outputDir.names := mt (Path.parent_mem_components_iff _).mpr up
  obtain ⟨all, hall, hcases⟩ := exists_plan_without_filter h
  have hisolated := isolated_of_plan wf free valid up h script
  have hrest : Isolated script all fs :=
    isolated_of_plan (s := { s with filter := none }) wf free valid up hall script
  refine ⟨hisolated, fun starts => ⟨_, _, _, _, runSuite_of_plan h (starts _) _ rfl,
    runSuite_of_plan hall (starts _) _ rfl, ?_⟩⟩
  show (runInOrder _ _ _).1 = (runInOrder _ _ _).1.filter _
  rw [(hisolated.in_turn cases (List.Perm.refl cases)).1, (hrest.in_turn all (List.Perm.refl all)).1,
    List.filter_map, hcases]
  congr 2
  funext c
  rw [Function.comp_apply, alone_id]

/-- A program that has an output for one of the example's inputs and fails on all others. -/
def exampleScript : Script := fun input =>
  if input = .ofString "f/in1.py" then .ok ([0x31], some 0)
  else .error (.launch (.ofString "cat") (.os .noEntry))

/-- The example's settings with a filter that only the second case passes. -/
def filteredSettings : Settings := { exampleSettings with filter := some "2" }

theorem planned_cases_are_isolated_example :
    exampleFiles.WellFormed ∧ exampleFiles.LinkFree ∧
      exampleSettings.validate exampleFiles = .ok () ∧
      .parent ∉ exampleSettings.outputDir.components ∧
      plan exampleSettings exampleFiles = .ok (exampleCases, exampleRejected) ∧
      Isolated exampleScript exampleCases exampleFiles ∧
      ∃ summary after all afterAll,
        runSuite filteredSettings (.scripted exampleScript) { files := exampleFiles } =
            .ok (summary, after) ∧
          runSuite exampleSettings (.scripted exampleScript) { files := exampleFiles } =
            .ok (all, afterAll) ∧
          summary.cases = all.cases.filter fun report => filteredSettings.selects report.id := by
  have wf : exampleFiles.WellFormed := by decide +kernel
  have free : exampleFiles.LinkFree := by decide +kernel
  have valid : exampleSettings.validate exampleFiles = .ok () := by decide +kernel
  have up : .parent ∉ exampleSettings.outputDir.components := by decide +kernel
  have hplan := plan_of_list (s := filteredSettings) (Host.matches_default _) list_example
    (by decide +kernel) (by decide +kernel)
  exact ⟨wf, free, valid, up, plan_example,
    (planned_cases_are_isolated wf free valid up plan_example exampleScript).1,
    (planned_cases_are_isolated wf free (by decide +kernel) (by decide +kernel) hplan
      exampleScript).2 (Host.starts_default _)⟩

end Isolation

end GoldenFiles
