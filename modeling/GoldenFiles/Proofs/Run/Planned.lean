import GoldenFiles.Proofs.Config.Accepted
import GoldenFiles.Proofs.Discovery
import GoldenFiles.Proofs.Path.Parents
import GoldenFiles.Run.Suite

/-!
# The files of a plan

Every case of a plan has its input in the fixture directory, and its two outputs
are one and the same name in the output directory and beside the input. That
name is one ordinary component and no other case has it. Since accepted
directories have different components, an output never has the path of an input
or of an expected output, and so the guard of `runCase` that looks for the case
in which it has is never the one that answers. Once the workers are there, every
planned case is run, and run once; if they cannot be started, none is.
-/

namespace GoldenFiles

namespace Settings

/-- The file name of an input. -/
def inputFile (s : Settings) (id : CaseId) : Name := Utf8.encode (s.scheme.inputName id)

/-- The file name of an output. -/
def outputFile (s : Settings) (id : CaseId) : Name := Utf8.encode (s.scheme.outputName id)

/-- What is known of the files of a planned case. -/
structure Plans (s : Settings) (c : TestCase) : Prop where
  input_eq : c.input = s.fixturesDir.join ⟨s.inputFile c.id⟩
  actual_eq : c.artifacts.actual = s.outputDir.join ⟨s.outputFile c.id⟩
  /-- The directory is what is left of the input's path. -/
  expected_eq : c.artifacts.expected = s.fixturesDir.trimmed.join ⟨s.outputFile c.id⟩
  input_entry : EntryName (s.inputFile c.id)
  output_normal : Path.NormalName (s.outputFile c.id)

theorem outputFile_injective (s : Settings) : Function.Injective s.outputFile :=
  fun _ _ h => s.scheme.outputName_injective (Utf8.encode_injective h)

namespace Plans

variable {s : Settings} {c d : TestCase}

theorem components_actual (h : s.Plans c) : c.artifacts.actual.components =
    s.outputDir.components ++ [.normal (s.outputFile c.id)] := by
  rw [h.actual_eq, Path.components_join h.output_normal]

theorem components_expected (h : s.Plans c) : c.artifacts.expected.components =
    s.fixturesDir.components ++ [.normal (s.outputFile c.id)] := by
  rw [h.expected_eq, Path.components_join h.output_normal, Path.components_trimmed]

theorem components_input (h : s.Plans c) : c.input.components =
    s.fixturesDir.components ++ [.normal (s.inputFile c.id)] := by
  rw [h.input_eq, Path.components_join h.input_entry.toNormalName]

theorem actual_same_iff (hc : s.Plans c) (hd : s.Plans d) :
    c.artifacts.actual.Same d.artifacts.actual ↔ c.id = d.id := by
  rw [Path.Same, hc.components_actual, hd.components_actual]
  simp [s.outputFile_injective.eq_iff]

theorem actual_not_same_input (hc : s.Plans c) (hd : s.Plans d)
    (apart : ¬s.fixturesDir.Same s.outputDir) : ¬c.artifacts.actual.Same d.input := by
  rw [Path.Same, hc.components_actual, hd.components_input]
  exact fun h => apart (List.append_inj_left' h rfl).symm

theorem actual_not_same_expected (hc : s.Plans c) (hd : s.Plans d)
    (apart : ¬s.fixturesDir.Same s.outputDir) :
    ¬c.artifacts.actual.Same d.artifacts.expected := by
  rw [Path.Same, hc.components_actual, hd.components_expected]
  exact fun h => apart (List.append_inj_left' h rfl).symm

end Plans

end Settings

/-! ## What a plan holds -/

theorem occursIn_iff (needle text : List Char) :
    occursIn needle text = true ↔ needle <:+: text := by
  induction text with
  | nil => simp [occursIn]
  | cons c rest ih =>
      rw [occursIn, Bool.or_eq_true, List.isPrefixOf_iff_prefix, ih, List.infix_cons_iff]

theorem plan_eq_ok_iff (s : Settings) (fs : FileSystem) (host : Host) (cases : List TestCase)
    (rejected : List Rejected) : plan s fs host = .ok (cases, rejected) ↔
      host.Matches s.scheme ∧ ∃ loc listing,
        s.fixturesDir.access (fs.stat s.fixturesDir) = .ok (loc, .directory) ∧
          fs.Lists s.fixturesDir loc listing ∧
          cases = ((Discovery.ofListing s.scheme listing).fixtures.filter (s.selects ·.id)).map
            (.ofFixture s.outputDir s.scheme) ∧
          rejected = (Discovery.ofListing s.scheme listing).rejected := by
  unfold plan
  constructor
  · intro h
    split at h
    · cases h
    · next found hfound =>
        obtain ⟨matched, loc, listing, hdir, hlists, rfl⟩ := (discover_eq_ok_iff ..).mp hfound
        obtain ⟨hcases, hrejected⟩ := Prod.mk.inj (Except.ok.inj h)
        exact ⟨matched, loc, listing, hdir, hlists, hcases.symm, hrejected.symm⟩
  · rintro ⟨matched, loc, listing, hdir, hlists, rfl, rfl⟩
    rw [(discover_eq_ok_iff ..).mpr ⟨matched, loc, listing, hdir, hlists, rfl⟩]

section Plan

variable {s : Settings} {fs : FileSystem} {host : Host} {cases : List TestCase}
  {rejected : List Rejected}

/-- What is planned on one host is planned on every other one that matches the names. -/
theorem plan_of_matches {other : Host} (matched : other.Matches s.scheme)
    (h : plan s fs host = .ok (cases, rejected)) : plan s fs other = .ok (cases, rejected) :=
  (plan_eq_ok_iff ..).mpr ⟨matched, ((plan_eq_ok_iff ..).mp h).2⟩

theorem plain_of_fixture (wf : fs.WellFormed) {loc : Location} {listing : List Listed}
    (hl : fs.Lists s.fixturesDir loc listing) {fixture : Fixture}
    (h : fixture ∈ (Discovery.ofListing s.scheme listing).fixtures) : fixture.id.Plain := by
  obtain ⟨listed, hmem, hjudge⟩ := (Discovery.mem_fixtures_iff ..).mp h
  obtain ⟨name, hfile, hname, -⟩ := (Discovery.judge_eq_inl_iff ..).mp hjudge
  refine Scheme.plain_of_classify hname ?_
  rw [← Scheme.slash_mem_encode_iff, ← hfile.name_eq]
  exact (hl.entryName wf hmem).no_slash

theorem plans_of_fixture (wf : fs.WellFormed) (sound : s.scheme.Sound) {loc : Location}
    {listing : List Listed} (hl : fs.Lists s.fixturesDir loc listing) {fixture : Fixture}
    (h : fixture ∈ (Discovery.ofListing s.scheme listing).fixtures) :
    s.Plans (.ofFixture s.outputDir s.scheme fixture) := by
  have plain := plain_of_fixture wf hl h
  obtain ⟨listed, hmem, hjudge⟩ := (Discovery.mem_fixtures_iff ..).mp h
  obtain ⟨name, hfile, hname, hinput⟩ := (Discovery.judge_eq_inl_iff ..).mp hjudge
  have hlisted : listed.name = s.inputFile fixture.id := by
    rw [hfile.name_eq, Scheme.inputName_of_classify hname]; rfl
  have hentry : EntryName (s.inputFile fixture.id) := hlisted ▸ hl.entryName wf hmem
  have hpath : fixture.input = s.fixturesDir.join ⟨s.inputFile fixture.id⟩ := by
    rw [hinput, hl.path_eq hmem, hlisted]
  refine ⟨hpath, rfl, ?_, hentry, sound.outputName_normal plain.no_slash⟩
  show fixture.input.withFileName _ = _
  rw [hpath]
  exact Path.withFileName_join hentry.toNormalName

theorem plans_of_mem_plan (wf : fs.WellFormed) (sound : s.scheme.Sound)
    (h : plan s fs host = .ok (cases, rejected)) : ∀ c ∈ cases, s.Plans c := by
  obtain ⟨-, loc, listing, -, hl, rfl, -⟩ := (plan_eq_ok_iff ..).mp h
  intro c hc
  obtain ⟨fixture, hfixture, rfl⟩ := List.mem_map.mp hc
  exact plans_of_fixture wf sound hl (List.mem_of_mem_filter hfixture)

theorem plain_of_mem_plan (wf : fs.WellFormed) (h : plan s fs host = .ok (cases, rejected)) :
    ∀ c ∈ cases, c.id.Plain := by
  obtain ⟨-, loc, listing, -, hl, rfl, -⟩ := (plan_eq_ok_iff ..).mp h
  intro c hc
  obtain ⟨fixture, hfixture, rfl⟩ := List.mem_map.mp hc
  exact plain_of_fixture wf hl (List.mem_of_mem_filter hfixture)

/-- Planned cases ascend, so no two of them have one identifier. -/
theorem ascending_of_plan (h : plan s fs host = .ok (cases, rejected)) :
    Ascending TestCase.id cases := by
  obtain ⟨-, loc, listing, -, hl, rfl, -⟩ := (plan_eq_ok_iff ..).mp h
  exact Ascending.map.mpr ((Discovery.ascending_fixtures hl).filter _)

theorem pairwise_ids_of_plan (h : plan s fs host = .ok (cases, rejected)) :
    cases.Pairwise fun c d => c.id ≠ d.id :=
  List.pairwise_map.mp (ascending_of_plan h).nodup_keys

theorem not_same_of_plan (accepted : s.Accepted fs)
    (h : plan s fs host = .ok (cases, rejected)) : ¬s.fixturesDir.Same s.outputDir := by
  obtain ⟨-, loc, listing, hdir, -⟩ := (plan_eq_ok_iff ..).mp h
  exact accepted.not_same ((Path.access_eq_ok_iff ..).mp hdir).2

/-! ## The workers of a run -/

/-- A host that starts the workers for so many cases, or does not have to. -/
def Host.Starts (host : Host) (s : Settings) (cases : Nat) : Prop :=
  host.refusal? (s.workers.count host) cases = none

/-- A host that refuses nothing starts the workers of all settings. -/
theorem Host.starts_default (s : Settings) (cases : Nat) : Host.Starts {} s cases := by
  rw [Starts, refusal?, ite_self]

theorem runSuite_of_starts (h : plan s fs host = .ok (cases, rejected))
    (starts : host.Starts s cases.length) (execute : Executor) {state : RunState}
    (files : state.files = fs) : runSuite s execute state host =
      .ok (⟨(runCases execute cases state).1, rejected⟩, (runCases execute cases state).2) := by
  rw [Host.Starts] at starts
  rw [runSuite, files, h]
  simp only [runOnWorkers, starts]

/-- An error that ends a run before its first case. -/
inductive Settings.Halts (s : Settings) (host : Host) (fs : FileSystem) : RunError → Prop where
  | unplanned {e : RunError} (h : plan s fs host = .error e) : Halts s host fs e
  | unstaffed {cases : List TestCase} {rejected : List Rejected} {said : List String}
      (h : plan s fs host = .ok (cases, rejected))
      (refused : host.refusal? (s.workers.count host) cases.length = some said) :
      Halts s host fs (.pool said)

/-- A run that halts does so with one error. -/
theorem Settings.Halts.unique {e e' : RunError} (h : s.Halts host fs e)
    (h' : s.Halts host fs e') : e = e' := by
  cases h with
  | unplanned h =>
      cases h' with
      | unplanned h' => exact Except.error.inj (h.symm.trans h')
      | unstaffed h' => cases h.symm.trans h'
  | unstaffed h refused =>
      cases h' with
      | unplanned h' => cases h.symm.trans h'
      | unstaffed h' refused' =>
          obtain ⟨rfl, -⟩ := Prod.mk.inj (Except.ok.inj (h.symm.trans h'))
          exact congrArg RunError.pool (Option.some.inj (refused.symm.trans refused'))

theorem Settings.Halts.not_starts {e : RunError} (h : s.Halts host fs e)
    (planned : plan s fs host = .ok (cases, rejected)) : ¬host.Starts s cases.length := by
  intro starts
  cases h with
  | unplanned h => cases h.symm.trans planned
  | unstaffed h refused =>
      obtain ⟨rfl, -⟩ := Prod.mk.inj (Except.ok.inj (h.symm.trans planned))
      cases refused.symm.trans starts

/-- A run halts, or it has a plan and its workers. -/
theorem halts_or_starts (s : Settings) (host : Host) (fs : FileSystem) :
    (∃ e, s.Halts host fs e) ∨
      ∃ cases rejected, plan s fs host = .ok (cases, rejected) ∧ host.Starts s cases.length := by
  cases h : plan s fs host with
  | error e => exact .inl ⟨e, .unplanned h⟩
  | ok found =>
      obtain ⟨cases, rejected⟩ := found
      cases starts : host.refusal? (s.workers.count host) cases.length with
      | none => exact .inr ⟨cases, rejected, rfl, starts⟩
      | some said => exact .inl ⟨_, .unstaffed h starts⟩

theorem runSuite_of_halts {e : RunError} (h : s.Halts host fs e) (execute : Executor)
    {state : RunState} (files : state.files = fs) : runSuite s execute state host = .error e := by
  rw [runSuite, files]
  cases h with
  | unplanned h => rw [h]
  | unstaffed h refused =>
      rw [h]
      simp only [runOnWorkers, refused]

/-- A run that comes to a summary had a plan and its workers. -/
theorem exists_plan_of_runSuite {execute : Executor} {state after : RunState} {summary : Summary}
    (files : state.files = fs) (h : runSuite s execute state host = .ok (summary, after)) :
    ∃ cases rejected, plan s fs host = .ok (cases, rejected) ∧ host.Starts s cases.length := by
  refine (halts_or_starts s host fs).resolve_left fun ⟨e, halts⟩ => ?_
  rw [runSuite_of_halts halts execute files] at h
  cases h

end Plan

/-! ## Every planned case is run once -/

/-- What the executor leaves behind when it is called for some cases, in order. -/
def Executor.runAll (execute : Executor) (cases : List TestCase) (fs : FileSystem) : FileSystem :=
  cases.foldl (fun fs c => (execute c.input c.artifacts.actual fs).files) fs

theorem Executor.runAll_cons (execute : Executor) (c : TestCase) (cases : List TestCase)
    (fs : FileSystem) : execute.runAll (c :: cases) fs =
      execute.runAll cases (execute c.input c.artifacts.actual fs).files := rfl

theorem Executor.runAll_append (execute : Executor) (cases others : List TestCase)
    (fs : FileSystem) :
    execute.runAll (cases ++ others) fs = execute.runAll others (execute.runAll cases fs) :=
  List.foldl_append

theorem runCase_calls (execute : Executor) {c : TestCase}
    (apart : ¬c.artifacts.actual.Same c.artifacts.expected) (state : RunState) :
    (runCase execute c state).2.started = state.started ++ [c.input] ∧
      (runCase execute c state).2.files =
        (execute c.input c.artifacts.actual state.files).files := by
  unfold runCase
  simp only [if_neg apart]
  split <;> exact ⟨rfl, rfl⟩

theorem runInOrder_calls (execute : Executor) {cases : List TestCase}
    (apart : ∀ c ∈ cases, ¬c.artifacts.actual.Same c.artifacts.expected) (state : RunState) :
    (runInOrder execute cases state).2.started = state.started ++ cases.map TestCase.input ∧
      (runInOrder execute cases state).2.files = execute.runAll cases state.files := by
  induction cases generalizing state with
  | nil => exact ⟨(List.append_nil _).symm, rfl⟩
  | cons c cases ih =>
      obtain ⟨hstarted, hfiles⟩ := runCase_calls execute (apart c List.mem_cons_self) state
      obtain ⟨hrest, hafter⟩ := ih (fun d hd => apart d (List.mem_cons_of_mem _ hd))
        (runCase execute c state).2
      simp only [runInOrder]
      rw [hrest, hafter, hstarted, hfiles, List.append_assoc]
      exact ⟨rfl, rfl⟩

/-- Cases whose files are told apart by the components of their paths alone. -/
structure Unambiguous (s : Settings) (cases : List TestCase) : Prop where
  actual_differ : cases.Pairwise fun c d => ¬c.artifacts.actual.Same d.artifacts.actual
  /-- No output has the path of anything that a case reads, its own or another's. -/
  actual_only : ∀ c ∈ cases, ∀ d ∈ cases, ¬c.artifacts.actual.Same d.input ∧
    ¬c.artifacts.actual.Same d.artifacts.expected
  one_component : ∀ c ∈ cases, ∃ name, Path.NormalName name ∧
    c.artifacts.actual = s.outputDir.join ⟨name⟩ ∧
    c.artifacts.actual.components = s.outputDir.components ++ [.normal name] ∧
    c.artifacts.expected.Same (s.fixturesDir.join ⟨name⟩)

theorem unambiguous_of_plan {s : Settings} {fs : FileSystem} {host : Host}
    {cases : List TestCase} {rejected : List Rejected} (wf : fs.WellFormed)
    (accepted : s.Accepted fs) (h : plan s fs host = .ok (cases, rejected)) :
    Unambiguous s cases := by
  have plans := plans_of_mem_plan wf accepted.sound h
  have apart := not_same_of_plan accepted h
  refine ⟨?_, ?_, ?_⟩
  · refine (pairwise_ids_of_plan h).imp_of_mem fun {c d} hc hd hne => ?_
    rw [(plans c hc).actual_same_iff (plans d hd)]
    exact hne
  · intro c hc d hd
    exact ⟨(plans c hc).actual_not_same_input (plans d hd) apart,
      (plans c hc).actual_not_same_expected (plans d hd) apart⟩
  · intro c hc
    have hplan := plans c hc
    refine ⟨s.outputFile c.id, hplan.output_normal, hplan.actual_eq, hplan.components_actual, ?_⟩
    rw [Path.Same, hplan.components_expected, Path.components_join hplan.output_normal]

/-- The cases of a plan have unambiguous files, and so each of them is run once,
whatever the executor and whatever the order, by a run whose workers could be
started. -/
theorem planned_cases_run_once {s : Settings} {fs : FileSystem} {host : Host}
    {cases : List TestCase} {rejected : List Rejected} (wf : fs.WellFormed)
    (valid : s.validate fs = .ok ()) (h : plan s fs host = .ok (cases, rejected)) :
    Unambiguous s cases ∧
    ∀ (execute : Executor) (state : RunState), state.files = fs →
      (∀ order : List TestCase, order.Perm cases →
        (runInOrder execute order state).2.started = state.started ++ order.map TestCase.input ∧
        (runInOrder execute order state).2.files = execute.runAll order fs) ∧
      (host.Starts s cases.length → ∃ summary,
        runSuite s execute state host = .ok (summary, (runInOrder execute cases state).2)) ∧
      ∀ said, host.refusal? (s.workers.count host) cases.length = some said →
        runSuite s execute state host = .error (.pool said) := by
  have unambiguous := unambiguous_of_plan wf ((s.validate_eq_ok_iff fs).mp valid) h
  refine ⟨unambiguous, fun execute state files => ⟨fun order hperm => ?_, fun starts => ?_,
    fun said refused => runSuite_of_halts (.unstaffed h refused) execute files⟩⟩
  · have hguard : ∀ c ∈ order, ¬c.artifacts.actual.Same c.artifacts.expected := fun c hc =>
      (unambiguous.actual_only c (hperm.mem_iff.mp hc) c (hperm.mem_iff.mp hc)).2
    exact files ▸ runInOrder_calls execute hguard state
  · exact ⟨_, runSuite_of_starts h starts execute files⟩

/-! ## A file system to look at -/

/-- A plan whose fixtures and rejections are listed in their order. -/
theorem plan_of_list {s : Settings} {fs : FileSystem} {host : Host} {listing : List Listed}
    (matched : host.Matches s.scheme) (h : fs.list s.fixturesDir = .ok listing)
    (hf : Ascending Fixture.id (Discovery.fixturesIn s.scheme listing))
    (hr : Ascending Rejected.path (Discovery.rejectedIn s.scheme listing)) :
    plan s fs host = .ok (((Discovery.fixturesIn s.scheme listing).filter (s.selects ·.id)).map
      (.ofFixture s.outputDir s.scheme), Discovery.rejectedIn s.scheme listing) := by
  rw [plan, discover_of_list matched h hf hr]

/-- Two inputs with one expected output, and a file that is no input. -/
def exampleFiles : FileSystem where
  entries :=
    [([Utf8.encode "f"], .directory),
      ([Utf8.encode "in1.py", Utf8.encode "f"], .file [] false),
      ([Utf8.encode "out1.txt", Utf8.encode "f"], .file [0x31] false),
      ([Utf8.encode "in2.py", Utf8.encode "f"], .file [] false),
      ([Utf8.encode "in3.rb", Utf8.encode "f"], .file [] false)]
  here := []
  distinct := by decide +kernel

/-- Settings for them. -/
def exampleSettings : Settings := { fixturesDir := .ofString "f", outputDir := .ofString "o" }

def exampleCases : List TestCase :=
  [⟨⟨"1"⟩, .ofString "f/in1.py", ⟨.ofString "o/out1.txt", .ofString "f/out1.txt"⟩⟩,
    ⟨⟨"2"⟩, .ofString "f/in2.py", ⟨.ofString "o/out2.txt", .ofString "f/out2.txt"⟩⟩]

def exampleRejected : List Rejected :=
  [⟨.ofString "f/in3.rb", "extension 'rb' does not match input extension 'py'"⟩]

def exampleListing : List Listed :=
  [⟨Utf8.encode "in1.py", .ofString "f/in1.py", .file [] false⟩,
    ⟨Utf8.encode "out1.txt", .ofString "f/out1.txt", .file [0x31] false⟩,
    ⟨Utf8.encode "in2.py", .ofString "f/in2.py", .file [] false⟩,
    ⟨Utf8.encode "in3.rb", .ofString "f/in3.rb", .file [] false⟩]

theorem list_example : exampleFiles.list (.ofString "f") = .ok exampleListing := by
  decide +kernel

theorem plan_example : plan exampleSettings exampleFiles = .ok (exampleCases, exampleRejected) := by
  rw [plan_of_list (Host.matches_default _) list_example (by decide +kernel) (by decide +kernel)]
  decide +kernel

/-- A host with threads for a thousand workers. -/
def smallHost : Host where
  poolFault? workers :=
    if workers ≤ 1000 then none else some ["Resource temporarily unavailable (os error 11)"]

/-- A program with an output for both of the example's inputs. -/
def exampleOutputs : List (Name × Prepared) :=
  [(Utf8.encode "in1.py", .exits (some [0x31]) (some 0)),
    (Utf8.encode "in2.py", .exits (some [0x32]) (some 0))]

/-- The example's settings with a number of workers. -/
def workingSettings (jobs : Nat) : Settings := { exampleSettings with jobs := jobs }

/-- Two workers run both cases, and with too many of them no case is run. -/
theorem planned_cases_run_once_example :
    Unambiguous (workingSettings 2) exampleCases ∧
      (∃ summary after, runSuite (workingSettings 2) (.prepared exampleOutputs)
          { files := exampleFiles } smallHost = .ok (summary, after) ∧
        after.started = [.ofString "f/in1.py", .ofString "f/in2.py"] ∧
        after.files.read (.ofString "o/out1.txt") = .ok [0x31] ∧
        after.files.read (.ofString "o/out2.txt") = .ok [0x32]) ∧
      runSuite (workingSettings 65535) (.prepared exampleOutputs) { files := exampleFiles }
          smallHost = .error (.pool ["Resource temporarily unavailable (os error 11)"]) := by
  have wf : exampleFiles.WellFormed := by decide +kernel
  have hplan (jobs : Nat) : plan (workingSettings jobs) exampleFiles smallHost =
      .ok (exampleCases, exampleRejected) := by
    have hdefault : plan (workingSettings jobs) exampleFiles =
        .ok (exampleCases, exampleRejected) := plan_example
    exact plan_of_matches rfl hdefault
  obtain ⟨unambiguous, hfew⟩ := planned_cases_run_once wf (by decide +kernel) (hplan 2)
  obtain ⟨-, hmany⟩ := planned_cases_run_once wf (by decide +kernel) (hplan 65535)
  obtain ⟨horder, hstarts, -⟩ := hfew (.prepared exampleOutputs) { files := exampleFiles } rfl
  obtain ⟨hstarted, hfiles⟩ := horder exampleCases (List.Perm.refl _)
  obtain ⟨summary, hrun⟩ := hstarts rfl
  refine ⟨unambiguous, ⟨summary, _, hrun, hstarted, ?_, ?_⟩, (hmany _ _ rfl).2.2 _ rfl⟩
  · rw [hfiles]
    decide +kernel
  · rw [hfiles]
    decide +kernel

end GoldenFiles
