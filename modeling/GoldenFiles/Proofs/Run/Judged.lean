import GoldenFiles.Proofs.Run.Planned

/-!
# A run judges exactly the fixtures

Every regular file in the fixture directory whose name starts with the input
marker is accounted for: it is the input of a case, or it is rejected, or the
filter has left its case out. The cases stand in the summary by identifier and
the rejected files by path, each of them once. None of this depends on the
executor, which can make a case fail but not make it go away, and none on the
order in which the directory is listed.
-/

namespace GoldenFiles

/-- Whether a directory holds a name that is a regular file, links followed. -/
def FileSystem.HoldsFile (fs : FileSystem) (dir : Path) (loc : Location) (name : String) : Prop :=
  ∃ e, fs.entry? (Utf8.encode name :: loc) = some e ∧
    ((∃ content executable, e = .file content executable) ∨
      ∃ target place content executable, e = .link target ∧
        fs.stat (dir.join ⟨Utf8.encode name⟩) = .ok (place, .file content executable))

/-- Whether a name is made from an identifier that is not empty and has no dot. -/
def Scheme.IsInputName (scheme : Scheme) (id : CaseId) (name : String) : Prop :=
  name = scheme.inputName id ∧ id.text ≠ "" ∧ '.' ∉ id.text.toList

section Lines

variable {s : Settings} {fs : FileSystem} {dir : Path} {loc : Location} {listing : List Listed}

theorem FileSystem.Lists.exists_isFile_iff (h : fs.Lists dir loc listing) (name : String) :
    (∃ listed ∈ listing, listed.IsFile name) ↔ fs.HoldsFile dir loc name := by
  constructor
  · rintro ⟨listed, hmem, ⟨content, executable, hfile⟩, hname⟩
    obtain ⟨e, he, hf⟩ := (h.mem_iff listed).mp hmem
    rw [hname] at he hf
    obtain ⟨-, hentry⟩ := (follow_eq_ok_iff ..).mp hf
    refine ⟨e, he, ?_⟩
    cases e with
    | directory => rw [hfile] at hentry; cases hentry
    | file => exact .inl ⟨_, _, rfl⟩
    | link target =>
        obtain ⟨place, hs, -⟩ := hentry
        exact .inr ⟨target, place, content, executable, rfl, hfile ▸ hs⟩
  · rintro ⟨e, he, hfile⟩
    obtain ⟨listed, hmem, hf⟩ := exists_right_of_forall₂ h ((mem_children_iff ..).mpr he)
    obtain ⟨⟨hname, -⟩, hentry⟩ := (follow_eq_ok_iff ..).mp hf
    refine ⟨listed, hmem, ?_, hname⟩
    rcases hfile with ⟨content, executable, rfl⟩ | ⟨target, place, content, executable, rfl, hs⟩
    · exact ⟨content, executable, hentry⟩
    · obtain ⟨other, hother, -⟩ := hentry
      rw [hs] at hother
      exact ⟨content, executable, (Prod.mk.inj (Except.ok.inj hother)).2.symm⟩

theorem mem_fixture_ids_iff (sound : s.scheme.Sound) (line : '\n' ∉ s.scheme.inputExtension.toList)
    (h : fs.Lists dir loc listing) (id : CaseId) :
    id ∈ (Discovery.ofListing s.scheme listing).fixtures.map Fixture.id ↔
      ∃ name, fs.HoldsFile dir loc name ∧ s.scheme.IsInputName id name := by
  rw [List.mem_map]
  constructor
  · rintro ⟨fixture, hmem, rfl⟩
    obtain ⟨listed, hl, hjudge⟩ := (Discovery.mem_fixtures_iff ..).mp hmem
    obtain ⟨name, hfile, hname, -⟩ := (Discovery.judge_eq_inl_iff ..).mp hjudge
    exact ⟨name, (h.exists_isFile_iff name).mp ⟨listed, hl, hfile⟩,
      (Scheme.classify_eq_fixture_iff sound line ..).mp hname⟩
  · rintro ⟨name, hholds, hname⟩
    obtain ⟨listed, hl, hfile⟩ := (h.exists_isFile_iff name).mpr hholds
    refine ⟨⟨id, listed.path⟩, (Discovery.mem_fixtures_iff ..).mpr ⟨listed, hl, ?_⟩, rfl⟩
    exact (Discovery.judge_eq_inl_iff ..).mpr
      ⟨name, hfile, (Scheme.classify_eq_fixture_iff sound line ..).mpr hname, rfl⟩

theorem mem_rejected_paths_iff (sound : s.scheme.Sound)
    (line : '\n' ∉ s.scheme.inputExtension.toList) (h : fs.Lists dir loc listing) (path : Path) :
    path ∈ (Discovery.ofListing s.scheme listing).rejected.map Rejected.path ↔
      ∃ name, fs.HoldsFile dir loc name ∧ s.scheme.inputMarker.toList <+: name.toList ∧
        (∀ id, ¬s.scheme.IsInputName id name) ∧ path = dir.join ⟨Utf8.encode name⟩ := by
  rw [List.mem_map]
  constructor
  · rintro ⟨rejected, hmem, rfl⟩
    obtain ⟨listed, hl, hjudge⟩ := (Discovery.mem_rejected_iff ..).mp hmem
    obtain ⟨name, why, hfile, hname, rfl⟩ := (Discovery.judge_eq_inr_iff ..).mp hjudge
    refine ⟨name, (h.exists_isFile_iff name).mp ⟨listed, hl, hfile⟩, ?_, fun id hid => ?_, ?_⟩
    · by_contra hno
      rw [(Scheme.classify_eq_unrelated_iff ..).mpr hno] at hname
      cases hname
    · rw [(Scheme.classify_eq_fixture_iff sound line ..).mpr hid] at hname
      cases hname
    · rw [← hfile.name_eq]
      exact h.path_eq hl
  · rintro ⟨name, hholds, hmarker, hno, rfl⟩
    obtain ⟨listed, hl, hfile⟩ := (h.exists_isFile_iff name).mpr hholds
    have hpath : listed.path = dir.join ⟨Utf8.encode name⟩ := by rw [← hfile.name_eq, h.path_eq hl]
    cases hc : s.scheme.classify name with
    | unrelated => exact absurd hmarker ((Scheme.classify_eq_unrelated_iff ..).mp hc)
    | fixture id => exact absurd ((Scheme.classify_eq_fixture_iff sound line ..).mp hc) (hno id)
    | malformed why =>
        refine ⟨⟨listed.path, why.message s.scheme⟩,
          (Discovery.mem_rejected_iff ..).mpr ⟨listed, hl, ?_⟩, hpath⟩
        exact (Discovery.judge_eq_inr_iff ..).mpr ⟨name, why, hfile, hc, rfl⟩

end Lines

/-! ## A report for every case -/

/-- The case that a report is about. -/
def CaseReport.testCase (report : CaseReport) : TestCase :=
  ⟨report.id, report.input, report.artifacts⟩

theorem runCase_testCase (execute : Executor) (c : TestCase) (state : RunState) :
    (runCase execute c state).1.testCase = c := by
  unfold runCase
  simp only []
  split
  · rfl
  · split <;> rfl

theorem runInOrder_testCases (execute : Executor) (cases : List TestCase) (state : RunState) :
    (runInOrder execute cases state).1.map CaseReport.testCase = cases := by
  induction cases generalizing state with
  | nil => rfl
  | cons c cases ih => simp only [runInOrder, List.map_cons, runCase_testCase, ih]

theorem runCase_id (execute : Executor) (c : TestCase) (state : RunState) :
    (runCase execute c state).1.id = c.id :=
  congrArg TestCase.id (runCase_testCase execute c state)

theorem runInOrder_ids (execute : Executor) (cases : List TestCase) (state : RunState) :
    (runInOrder execute cases state).1.map CaseReport.id = cases.map TestCase.id := by
  have hcases := congrArg (List.map TestCase.id) (runInOrder_testCases execute cases state)
  rwa [List.map_map] at hcases

theorem ascending_reports (execute : Executor) {cases : List TestCase}
    (h : Ascending TestCase.id cases) (state : RunState) :
    Ascending CaseReport.id (runInOrder execute cases state).1 := by
  have hids : ((runInOrder execute cases state).1.map CaseReport.id).Pairwise
      fun a b => compare a b = .lt := by
    rw [runInOrder_ids, List.pairwise_map]
    exact h
  exact List.pairwise_map.mp hids

theorem runCases_of_ascending (execute : Executor) {cases : List TestCase}
    (h : Ascending TestCase.id cases) (state : RunState) :
    runCases execute cases state = runInOrder execute cases state := by
  show (sortedBy CaseReport.id (runInOrder execute cases state).1, _) = _
  rw [sortedBy_of_ascending (ascending_reports execute h state)]

theorem runSuite_of_plan {s : Settings} {fs : FileSystem} {host : Host} {cases : List TestCase}
    {rejected : List Rejected} (h : plan s fs host = .ok (cases, rejected))
    (starts : host.Starts s cases.length) (execute : Executor) {state : RunState}
    (files : state.files = fs) : runSuite s execute state host =
      .ok (⟨(runInOrder execute cases state).1, rejected⟩, (runInOrder execute cases state).2) := by
  rw [runSuite_of_starts h starts execute files,
    runCases_of_ascending execute (ascending_of_plan h)]

theorem selects_iff (s : Settings) (id : CaseId) :
    s.selects id = true ↔ ∀ needle ∈ s.filter, needle.toList <:+: id.text.toList := by
  unfold Settings.selects
  cases s.filter with
  | none => simp
  | some needle => simp [occursIn_iff]

theorem mem_selected_ids_iff (s : Settings) (fixtures : List Fixture) (id : CaseId) :
    id ∈ ((fixtures.filter (s.selects ·.id)).map
        (TestCase.ofFixture s.outputDir s.scheme)).map TestCase.id ↔
      s.selects id = true ∧ id ∈ fixtures.map Fixture.id := by
  rw [List.map_map]
  simp only [List.mem_map, List.mem_filter, Function.comp_apply, TestCase.ofFixture]
  constructor
  · rintro ⟨fixture, ⟨hf, hs⟩, rfl⟩
    exact ⟨hs, fixture, hf, rfl⟩
  · rintro ⟨hs, fixture, hf, rfl⟩
    exact ⟨fixture, ⟨hf, hs⟩, rfl⟩

/-- A plan is the same for every order in which the directory is stored. -/
theorem plan_of_perm {s : Settings} {fs gs : FileSystem} {host : Host}
    {found : List TestCase × List Rejected} (wf : fs.WellFormed) (h : plan s fs host = .ok found)
    (here : gs.here = fs.here) (hp : fs.entries.Perm gs.entries) : plan s gs host = .ok found := by
  obtain ⟨cases, rejected⟩ := found
  obtain ⟨matched, loc, listing, hdir, hl, rfl, rfl⟩ := (plan_eq_ok_iff ..).mp h
  obtain ⟨other, hother, hperm⟩ := hl.of_perm here.symm hp
  rw [Discovery.ofListing_perm wf hl hperm.symm]
  refine (plan_eq_ok_iff ..).mpr ⟨matched, loc, other, ?_, hother, rfl, rfl⟩
  rw [← FileSystem.stat_congr (FileSystem.agrees_of_perm here.symm hp)]
  exact hdir

/-- A summary that accounts for every regular file of the fixture directory. -/
structure Summary.Accounts (summary : Summary) (s : Settings) (fs : FileSystem) (loc : Location) :
    Prop where
  /-- The cases are the fixtures that the filter lets through. -/
  cases_iff : ∀ id, id ∈ summary.cases.map CaseReport.id ↔
    (∀ needle ∈ s.filter, needle.toList <:+: id.text.toList) ∧
      ∃ name, fs.HoldsFile s.fixturesDir loc name ∧ s.scheme.IsInputName id name
  cases_ascend : Ascending CaseReport.id summary.cases
  /-- Rejected is what claims to be an input and is none, whatever the filter. -/
  rejected_iff : ∀ path, path ∈ summary.rejected.map Rejected.path ↔
    ∃ name, fs.HoldsFile s.fixturesDir loc name ∧ s.scheme.inputMarker.toList <+: name.toList ∧
      (∀ id, ¬s.scheme.IsInputName id name) ∧ path = s.fixturesDir.join ⟨Utf8.encode name⟩
  rejected_ascend : Ascending Rejected.path summary.rejected

/-- A run of accepted settings judges exactly the fixtures, on a host that matches
their names and starts the workers. -/
theorem run_judges_exactly_the_fixtures {s : Settings} {fs : FileSystem} {loc : Location}
    {host : Host} (matched : host.Matches s.scheme) (starts : ∀ cases, host.Starts s cases)
    (wf : fs.WellFormed) (valid : s.validate fs = .ok ())
    (line : '\n' ∉ s.scheme.inputExtension.toList)
    (dir : s.fixturesDir.access (fs.stat s.fixturesDir) = .ok (loc, .directory))
    (links : ∀ name target, fs.entry? (name :: loc) = some (.link target) →
      ∃ place e, fs.stat (s.fixturesDir.join ⟨name⟩) = .ok (place, e) ∧ place ≠ loc)
    (execute : Executor) (state : RunState) (files : state.files = fs) :
    ∃ summary after, runSuite s execute state host = .ok (summary, after) ∧
      summary.Accounts s fs loc ∧
      ∃ cases, plan s fs host = .ok (cases, summary.rejected) ∧
        ∀ gs : FileSystem, gs.here = fs.here → fs.entries.Perm gs.entries →
          plan s gs host = .ok (cases, summary.rejected) := by
  have sound := ((s.validate_eq_ok_iff fs).mp valid).sound
  obtain ⟨listing, hl⟩ := FileSystem.exists_lists links
  have hplan := (plan_eq_ok_iff s fs host _ _).mpr ⟨matched, loc, listing, dir, hl, rfl, rfl⟩
  refine ⟨_, _, runSuite_of_plan hplan (starts _) execute files, ⟨?_, ?_, ?_, ?_⟩, _, hplan, ?_⟩
  · intro id
    rw [runInOrder_ids, mem_selected_ids_iff, selects_iff, mem_fixture_ids_iff sound line hl]
  · exact ascending_reports execute (ascending_of_plan hplan) state
  · exact mem_rejected_paths_iff sound line hl
  · exact Discovery.ascending_rejected wf hl
  · exact fun gs here hp => plan_of_perm wf hplan here hp

/-- An input that is a link to a file elsewhere, and one with another extension. -/
def exampleLinks : FileSystem where
  entries :=
    [([Utf8.encode "f"], .directory),
      ([Utf8.encode "in1.py", Utf8.encode "f"], .link (.ofString "../one")),
      ([Utf8.encode "in3.rb", Utf8.encode "f"], .file [] false),
      ([Utf8.encode "one"], .file [] false)]
  here := []
  distinct := by decide +kernel

theorem run_judges_exactly_the_fixtures_example : ∃ summary after,
    runSuite exampleSettings (.prepared []) ⟨exampleLinks, [], []⟩ = .ok (summary, after) ∧
      summary.Accounts exampleSettings exampleLinks [Utf8.encode "f"] := by
  have links : ∀ name target, exampleLinks.entry? [name, Utf8.encode "f"] = some (.link target) →
      ∃ place e, exampleLinks.stat (exampleSettings.fixturesDir.join ⟨name⟩) = .ok (place, e) ∧
        place ≠ [Utf8.encode "f"] := by
    intro name target h
    have hmem := (FileSystem.mem_children_iff ..).mpr h
    have hchildren : exampleLinks.children [Utf8.encode "f"] =
        [(Utf8.encode "in1.py", .link (.ofString "../one")),
          (Utf8.encode "in3.rb", .file [] false)] := by decide +kernel
    rw [hchildren] at hmem
    obtain ⟨rfl, -⟩ : name = Utf8.encode "in1.py" ∧ target = .ofString "../one" := by
      simpa using hmem
    exact ⟨[Utf8.encode "one"], .file [] false, by decide +kernel, by decide +kernel⟩
  obtain ⟨summary, after, hrun, haccounts, -⟩ :=
    run_judges_exactly_the_fixtures (Host.matches_default _) (Host.starts_default _)
      (by decide +kernel) (by decide +kernel) (by decide +kernel) (by decide +kernel) links
      (.prepared []) ⟨exampleLinks, [], []⟩ rfl
  exact ⟨summary, after, hrun, haccounts⟩

end GoldenFiles
