import GoldenFiles.Proofs.FileSystem.Opening
import GoldenFiles.Proofs.Run.Judged
import Mathlib.Logic.Relation

/-!
# When a run can damage the fixtures

An executor that is `Confined` makes directories above the output it is asked
for and writes that one file. Runs of such executors leave the regular files of
the fixture directory alone, except where the settings are `Exposed`: where
some planned output, if it were opened now, would be a file directly in the
fixture directory. Accepted settings can be exposed. Two directories are compared
before anything is made, and `new/../f` is no place then, because `new` is
missing; it is one after `new` has been made, namely `f`.

Exposure is decided on the file system that the settings were accepted on, the
damage is done on a later one. What carries the argument from one to the other
is `Grows`: directories stay directories and files stay files, so whatever can be
opened later could have been opened at once.
-/

namespace GoldenFiles

open FileSystem

/-- One thing that an executor may do for an output. -/
inductive Touch (actual : Path) : FileSystem → FileSystem → Prop where
  | makeDirectory {fs gs : FileSystem} {parent dir : Path} (above : actual.parent? = some parent)
      (is_ancestor : dir ∈ parent.ancestors) (made : dir.access (fs.makeDirectory dir) = .ok gs) :
      Touch actual fs gs
  | write {fs gs : FileSystem} {loc : Location}
      (opened : actual.access (fs.create actual) = .ok (loc, gs)) (content : Bytes) :
      Touch actual fs (gs.fill loc content)

/-- Whatever an executor may do for an output. -/
def Touches (actual : Path) : FileSystem → FileSystem → Prop :=
  Relation.ReflTransGen (Touch actual)

/-- One thing that an executor may do for the output of one of some cases. -/
def TouchesOneOf (cases : List TestCase) (fs gs : FileSystem) : Prop :=
  ∃ c ∈ cases, Touch c.artifacts.actual fs gs

/-- An executor that only makes the directories above an output and writes it. -/
def Executor.Confined (execute : Executor) : Prop :=
  ∀ input actual fs, Touches actual fs (execute input actual fs).files

/-- What no run takes away from a file system. -/
structure FileSystem.Grows (fs gs : FileSystem) : Prop where
  wf : gs.WellFormed
  free : gs.LinkFree
  here_eq : gs.here = fs.here
  directory : ∀ loc, fs.entry? loc = some .directory → gs.entry? loc = some .directory
  file : ∀ loc content executable, fs.entry? loc = some (.file content executable) →
    ∃ other, gs.entry? loc = some (.file other executable)

/-- The regular files directly in a directory are the same ones, with the same
content. -/
def FileSystem.SameFiles (place : Location) (fs gs : FileSystem) : Prop :=
  ∀ name content, (∃ executable, gs.entry? (name :: place) = some (.file content executable)) ↔
    ∃ executable, fs.entry? (name :: place) = some (.file content executable)

section Steps

variable {fs gs hs : FileSystem}

theorem FileSystem.Grows.refl (wf : fs.WellFormed) (free : fs.LinkFree) : fs.Grows fs :=
  ⟨wf, free, rfl, fun _ h => h, fun _ _ _ h => ⟨_, h⟩⟩

theorem FileSystem.Grows.trans (h : fs.Grows gs) (h' : gs.Grows hs) : fs.Grows hs := by
  refine ⟨h'.wf, h'.free, h'.here_eq.trans h.here_eq,
    fun loc hd => h'.directory loc (h.directory loc hd), ?_⟩
  intro loc content executable hf
  obtain ⟨other, hother⟩ := h.file loc content executable hf
  exact h'.file loc other executable hother

theorem FileSystem.Grows.was_directory (h : fs.Grows gs) (free : fs.LinkFree) {loc : Location}
    (hd : gs.entry? loc = some .directory) :
    fs.entry? loc = some .directory ∨ fs.entry? loc = none := by
  cases he : fs.entry? loc with
  | none => exact .inr rfl
  | some e =>
      cases e with
      | directory => exact .inl rfl
      | file content executable =>
          obtain ⟨other, hother⟩ := h.file loc content executable he
          rw [hd] at hother; cases hother
      | link target => exact absurd he (free loc target)

theorem FileSystem.Grows.put_file (wf : fs.WellFormed) (free : fs.LinkFree) {name : Name}
    {dir : Location} (hname : EntryName name) (hdir : fs.entry? dir = some .directory)
    {content : Bytes} {executable : Bool}
    (old : ∀ e, fs.entry? (name :: dir) = some e → ∃ before, e = .file before executable) :
    fs.Grows (fs.put (name :: dir) (.file content executable)) := by
  have hput := fs.entry?_put (List.cons_ne_nil name dir) (.file content executable)
  refine ⟨wf.put hname hdir fun hd => ?_, free.put (by simp) (by simp), here_put .., ?_, ?_⟩
  · obtain ⟨before, hbefore⟩ := old _ hd
    cases hbefore
  · intro loc hd
    rw [hput, if_neg, hd]
    rintro rfl
    obtain ⟨before, hbefore⟩ := old _ hd
    cases hbefore
  · intro loc before other hf
    rw [hput]
    split
    · next heq =>
        obtain ⟨b, hb⟩ := old _ (heq ▸ hf)
        obtain ⟨-, rfl⟩ := Entry.file.inj hb
        exact ⟨content, rfl⟩
    · exact ⟨before, hf⟩

theorem FileSystem.Made.grows {places : List Location} (h : fs.Made gs places) : fs.Grows gs :=
  ⟨h.wf, h.free, h.here_eq, fun loc hd => h.kept loc _ hd,
    fun loc content _ hf => ⟨content, h.kept loc _ hf⟩⟩

theorem FileSystem.SameFiles.refl (place : Location) (fs : FileSystem) : SameFiles place fs fs :=
  fun _ _ => Iff.rfl

theorem FileSystem.SameFiles.trans {place : Location} (h : SameFiles place fs gs)
    (h' : SameFiles place gs hs) : SameFiles place fs hs :=
  fun name content => (h' name content).trans (h name content)

theorem sameFiles_put_of_ne {place loc : Location} {e : Entry} (hloc : loc ≠ [])
    (hne : loc.tail ≠ place) : SameFiles place fs (fs.put loc e) := by
  intro name content
  rw [entry?_put fs hloc, if_neg]
  rintro rfl
  exact hne rfl

theorem FileSystem.Made.sameFiles {loc place : Location} (h : fs.Made gs [loc])
    (absent : fs.entry? loc = none) : SameFiles place fs gs := by
  intro name content
  by_cases heq : name :: place = loc
  · rw [heq, absent, h.made loc List.mem_cons_self]
    simp
  · rw [h.others _ (by simpa using heq)]

end Steps

/-! ## One step, and all steps of a run -/

section Run

variable {fs gs hs : FileSystem} {p : Path} {name : Name}

theorem grows_of_openIn (place : Location) (wf : fs.WellFormed) (free : fs.LinkFree) {dir loc : Location}
    (hname : EntryName name) (hdir : fs.entry? dir = some .directory)
    (h : fs.openIn dir name = .ok (loc, gs)) (content : Bytes) :
    fs.Grows (gs.fill loc content) ∧ (dir ≠ place → SameFiles place fs (gs.fill loc content)) := by
  obtain ⟨rfl, -, executable, rfl, old⟩ := openIn_eq_ok h
  have hopened : entry? (fs.put (name :: dir) (.file [] executable)) (name :: dir) =
      some (.file [] executable) := by rw [entry?_put fs (by simp), if_pos rfl]
  have hgrows : fs.Grows (fs.put (name :: dir) (.file [] executable)) :=
    .put_file wf free hname hdir old
  rw [fill, hopened]
  constructor
  · refine hgrows.trans (.put_file hgrows.wf hgrows.free hname (hgrows.directory _ hdir) ?_)
    exact fun e he => ⟨[], (Option.some.inj (hopened.symm.trans he)).symm⟩
  · intro hne
    have hout : (name :: dir).tail ≠ place := hne
    exact (sameFiles_put_of_ne (by simp) hout).trans (sameFiles_put_of_ne (by simp) hout)

/-- One step keeps the files of a directory, or the output could be opened there. -/
theorem Touch.grows (step : Touch (p.join ⟨name⟩) fs gs) (place : Location) (wf : fs.WellFormed)
    (free : fs.LinkFree) (h : Path.NormalName name) : fs.Grows gs ∧
      (SameFiles place fs gs ∨ ∃ hs, holdsNul (p.join ⟨name⟩).bytes = false ∧
        fs.create (p.join ⟨name⟩) = .ok (name :: place, hs)) := by
  cases step with
  | makeDirectory above is_ancestor made =>
      obtain ⟨nul, made⟩ := (Path.access_eq_ok_iff ..).mp made
      obtain ⟨loc, habsent, hmade⟩ := makeDirectory_eq_ok wf free nul made
      exact ⟨hmade.grows, .inl (hmade.sameFiles habsent)⟩
  | write opened content =>
      obtain ⟨nul, hc⟩ := (Path.access_eq_ok_iff ..).mp opened
      obtain ⟨-, dir, henter, hopen⟩ := create_eq_ok free h hc
      have hdir := enter_directory wf (start_directory wf p) henter
      obtain ⟨hloc, hshort, -⟩ := openIn_eq_ok hopen
      obtain ⟨hgrows, hsame⟩ := grows_of_openIn place wf free
        (entryName_of_join h nul hshort) hdir hopen content
      refine ⟨hgrows, ?_⟩
      by_cases hplace : dir = place
      · exact .inr ⟨_, nul, hplace ▸ hloc ▸ hc⟩
      · exact .inl (hsame hplace)

/-- What can be opened later can be opened at once: growing takes nothing out of
the way. -/
theorem openOutput_of_create (wf : fs.WellFormed) (free : fs.LinkFree) (h : Path.NormalName name)
    (nul : holdsNul (p.join ⟨name⟩).bytes = false) (hg : fs.Grows gs) {loc : Location}
    (hc : gs.create (p.join ⟨name⟩) = .ok (loc, hs)) :
    ∃ after, fs.openOutput (p.join ⟨name⟩) = (.ok loc, after) := by
  obtain ⟨short, dir, henter, hopen⟩ := create_eq_ok hg.free h hc
  obtain ⟨rfl, hshort, executable, -, old⟩ := openIn_eq_ok hopen
  obtain ⟨rfl, htrail⟩ := (enter_eq_ok_iff hg.wf ..).mp henter
  rw [hg.here_eq] at htrail old ⊢
  have hplaces : ∀ loc ∈ trail (start fs.here p) p.names, fs.Open loc := by
    intro loc hloc
    have hd := htrail loc hloc
    refine (hg.was_directory free hd).imp_right fun hnone => ⟨hnone, fun name hname => ?_⟩
    exact (hg.wf.names hd name (List.mem_of_mem_head? hname)).short
  obtain ⟨made, hmake, hmade⟩ := makeParent_made wf free h short nul hplaces
  have hnone : ∀ e, made.entry? (name :: destination (start fs.here p) p.names) = some e →
      ∃ before executable, e = .file before executable := by
    intro e he
    have hno : gs.entry? (name :: destination (start fs.here p) p.names) ≠ some .directory :=
      fun hd => by obtain ⟨before, hb⟩ := old _ hd; cases hb
    rw [hmade.others _ fun hmem => hno (htrail _ hmem)] at he
    cases e with
    | directory => exact absurd (hg.directory _ he) hno
    | file content executable => exact ⟨content, executable, rfl⟩
    | link target => exact absurd he (free _ target)
  obtain ⟨after, hafter⟩ := exists_openIn hshort hnone
  refine ⟨after, ?_⟩
  have henter' : made.enter (start made.here p) p.names =
      .ok (destination (start fs.here p) p.names) := by
    rw [hmade.here_eq]
    exact (enter_eq_ok_iff hmade.wf ..).mpr ⟨rfl, hmade.made⟩
  rw [openOutput, hmake]
  simp only [Path.access_of_not_holdsNul nul, create_join hmade.free h,
    if_neg (Nat.not_le.mpr short), henter', Except.bind, hafter, Except.mapError]

/-- A run of confined executors keeps the files of a directory, or one of the
outputs could have been opened there from the start. -/
theorem grows_of_touches (place : Location) {s : Settings} {cases : List TestCase} (plans : ∀ c ∈ cases, s.Plans c)
    (wf : fs.WellFormed) (free : fs.LinkFree)
    (h : Relation.ReflTransGen (TouchesOneOf cases) fs gs) :
    fs.Grows gs ∧ (SameFiles place fs gs ∨
      ∃ c ∈ cases, ∃ name after, fs.openOutput c.artifacts.actual = (.ok (name :: place), after)) := by
  induction h with
  | refl => exact ⟨.refl wf free, .inl (.refl place fs)⟩
  | tail _ step ih =>
      obtain ⟨c, hc, step⟩ := step
      obtain ⟨hgrows, hsame⟩ := ih
      have hplan := plans c hc
      rw [hplan.actual_eq] at step
      obtain ⟨hnext, hkeeps⟩ := step.grows place hgrows.wf hgrows.free hplan.output_normal
      refine ⟨hgrows.trans hnext, ?_⟩
      rcases hsame with hsame | hexposed
      · rcases hkeeps with hkeeps | ⟨hs, nul, hcreate⟩
        · exact .inl (hsame.trans hkeeps)
        · obtain ⟨after, hopen⟩ :=
            openOutput_of_create wf free hplan.output_normal nul hgrows hcreate
          exact .inr ⟨c, hc, _, after, hplan.actual_eq ▸ hopen⟩
      · exact .inr hexposed

theorem touches_runAll {execute : Executor} (confined : execute.Confined) (cases : List TestCase)
    (fs : FileSystem) :
    Relation.ReflTransGen (TouchesOneOf cases) fs (execute.runAll cases fs) := by
  induction cases generalizing fs with
  | nil => exact .refl
  | cons c cases ih =>
      have hfirst : Touch c.artifacts.actual ≤ TouchesOneOf (c :: cases) :=
        fun _ _ step => ⟨c, List.mem_cons_self, step⟩
      have hrest : TouchesOneOf cases ≤ TouchesOneOf (c :: cases) :=
        fun _ _ => Exists.imp fun _ => And.imp_left (List.mem_cons_of_mem _)
      exact (Relation.ReflTransGen.mono hfirst _ _ (confined ..)).trans
        (Relation.ReflTransGen.mono hrest _ _ (ih _))

/-! ## An executor that does the damage -/

/-- The executor that gives one output some content and leaves all others alone. -/
def Executor.overwriting (target : Path) (content : Bytes) : Executor := fun _ actual fs =>
  if actual = target then
    match fs.openOutput actual with
    | (.error e, fs) => { result := .error e, files := fs }
    | (.ok loc, fs) => { result := .ok (some 0), files := fs.fill loc content }
  else { result := .ok (some 0), files := fs }

theorem touches_of_makesAlong {actual parent : Path} (above : actual.parent? = some parent)
    {fs gs : FileSystem} (h : MakesAlong parent.ancestors fs gs) : Touches actual fs gs := by
  refine Relation.ReflTransGen.mono (fun fs gs hstep => ?_) _ _ h
  obtain ⟨dir, hdir, hmake⟩ := hstep
  exact .makeDirectory above hdir hmake

theorem touches_makeParent (actual : Path) (fs : FileSystem) :
    Touches actual fs (fs.makeParent actual).2 := by
  unfold makeParent
  cases above : actual.parent? with
  | none => exact .refl
  | some parent =>
      simp only []
      have hmake := touches_of_makesAlong above (makesAlong_makeNested parent.ancestors fs)
      split
      · exact .refl
      · split
        · next hgs => rw [makeDirectories] at hgs; rw [hgs] at hmake; exact hmake
        · next hgs => rw [makeDirectories] at hgs; rw [hgs] at hmake; exact hmake

theorem touches_openOutput (actual : Path) (fs : FileSystem) :
    match fs.openOutput actual with
    | (.error _, gs) => Touches actual fs gs
    | (.ok loc, gs) => ∀ content, Touches actual fs (gs.fill loc content) := by
  have hparent := touches_makeParent actual fs
  unfold openOutput
  generalize fs.makeParent actual = made at hparent ⊢
  obtain ⟨_ | _, gs⟩ := made
  · exact hparent
  · simp only []
    cases hc : actual.access (gs.create actual) with
    | error e => exact hparent
    | ok opened =>
        obtain ⟨loc, hs⟩ := opened
        exact fun content => hparent.tail (.write hc content)

theorem confined_overwriting (target : Path) (content : Bytes) :
    (Executor.overwriting target content).Confined := by
  intro input actual fs
  have hopen := touches_openOutput actual fs
  unfold Executor.overwriting
  split
  · generalize fs.openOutput actual = opened at hopen ⊢
    obtain ⟨_ | loc, gs⟩ := opened
    · exact hopen
    · exact hopen content
  · exact .refl

theorem runAll_overwriting_of_ne {target : Path} {content : Bytes} {cases : List TestCase}
    (h : ∀ c ∈ cases, c.artifacts.actual ≠ target) (fs : FileSystem) :
    (Executor.overwriting target content).runAll cases fs = fs := by
  induction cases with
  | nil => rfl
  | cons c cases ih =>
      have hskip : (Executor.overwriting target content c.input c.artifacts.actual fs).files = fs := by
        rw [Executor.overwriting, if_neg (h c List.mem_cons_self)]
      rw [Executor.runAll_cons, hskip]
      exact ih fun d hd => h d (List.mem_cons_of_mem _ hd)

theorem openOutput_opens {actual : Path} {loc : Location}
    (h : fs.openOutput actual = (.ok loc, gs)) :
    ∃ executable, gs.entry? loc = some (.file [] executable) := by
  obtain ⟨made, -, hc⟩ := openOutput_eq_ok h
  exact create_opens ((Path.access_eq_ok_iff ..).mp hc).2

theorem entry?_fill {loc : Location} {old content : Bytes} {executable : Bool}
    (h : fs.entry? loc = some (.file old executable)) :
    entry? (fs.fill loc content) loc = some (.file content executable) := by
  have hloc : loc ≠ [] := by rintro rfl; cases h
  rw [fill, h]
  simp only [entry?_put fs hloc, if_true]

theorem entry?_runAll_overwriting {cases : List TestCase} {c : TestCase} (hc : c ∈ cases)
    (apart : cases.Pairwise fun c d => ¬c.artifacts.actual.Same d.artifacts.actual)
    {loc : Location} (h : fs.openOutput c.artifacts.actual = (.ok loc, gs)) (content : Bytes) :
    ∃ executable, entry? ((Executor.overwriting c.artifacts.actual content).runAll cases fs) loc =
      some (.file content executable) := by
  obtain ⟨before, after, rfl⟩ := List.append_of_mem hc
  obtain ⟨-, hafter, hbefore⟩ := List.pairwise_append.mp apart
  have hskip : ∀ d ∈ before, d.artifacts.actual ≠ c.artifacts.actual := fun d hd heq =>
    hbefore d hd c List.mem_cons_self (by rw [heq]; rfl)
  have hrest : ∀ d ∈ after, d.artifacts.actual ≠ c.artifacts.actual := fun d hd heq =>
    (List.pairwise_cons.mp hafter).1 d hd (by rw [heq]; rfl)
  have hwrite : (Executor.overwriting c.artifacts.actual content c.input c.artifacts.actual fs).files =
      gs.fill loc content := by
    rw [Executor.overwriting, if_pos rfl, h]
  have hrun : (Executor.overwriting c.artifacts.actual content).runAll (before ++ c :: after) fs =
      gs.fill loc content := by
    rw [Executor.runAll_append, runAll_overwriting_of_ne hskip, Executor.runAll_cons, hwrite,
      runAll_overwriting_of_ne hrest]
  obtain ⟨executable, he⟩ := openOutput_opens h
  exact ⟨executable, hrun ▸ entry?_fill he⟩

end Run

/-! ## Exactly the exposed settings are dangerous -/

/-- Some planned output, if it were opened now, would be a file directly in the
fixture directory. -/
def Settings.Exposed (s : Settings) (fs : FileSystem) : Prop :=
  ∃ host place cases rejected, fs.stat s.fixturesDir = .ok (place, .directory) ∧
    plan s fs host = .ok (cases, rejected) ∧ ∃ c ∈ cases, ∃ name after,
      fs.openOutput c.artifacts.actual = (.ok (name :: place), after)

/-- Every run with an executor, on whatever host, leaves the regular files of the
fixture directory as they were. -/
def Settings.KeepsFixtures (s : Settings) (fs : FileSystem) (execute : Executor) : Prop :=
  ∀ (host : Host) (state : RunState) (summary : Summary) (after : RunState) (place : Location),
    state.files = fs → runSuite s execute state host = .ok (summary, after) →
    fs.stat s.fixturesDir = .ok (place, .directory) → SameFiles place fs after.files

section Exposure

variable {s : Settings} {fs : FileSystem} {host : Host} {cases : List TestCase}
  {rejected : List Rejected}

theorem files_of_runSuite (wf : fs.WellFormed) (accepted : s.Accepted fs)
    (hplan : plan s fs host = .ok (cases, rejected)) (starts : host.Starts s cases.length)
    (execute : Executor) (state : RunState) (files : state.files = fs) :
    ∃ summary after, runSuite s execute state host = .ok (summary, after) ∧
      after.files = execute.runAll cases fs := by
  have unambiguous := unambiguous_of_plan wf accepted hplan
  refine ⟨_, _, runSuite_of_plan hplan starts execute files, ?_⟩
  rw [(runInOrder_calls execute (fun c hc => (unambiguous.actual_only c hc c hc).2) state).2, files]

theorem keepsFixtures_of_not_exposed (wf : fs.WellFormed) (free : fs.LinkFree)
    (accepted : s.Accepted fs) (h : ¬s.Exposed fs) {execute : Executor}
    (confined : execute.Confined) : s.KeepsFixtures fs execute := by
  intro host state summary after place files hrun hplace
  obtain ⟨cases, rejected, hplan, starts⟩ := exists_plan_of_runSuite files hrun
  obtain ⟨summary', after', hrun', hafter⟩ :=
    files_of_runSuite wf accepted hplan starts execute state files
  obtain ⟨rfl, rfl⟩ := Prod.mk.inj (Except.ok.inj (hrun.symm.trans hrun'))
  rw [hafter]
  rcases (grows_of_touches place (plans_of_mem_plan wf accepted.sound hplan) wf free
    (touches_runAll confined cases fs)).2 with hsame | ⟨c, hc, name, opened, hopen⟩
  · exact hsame
  · exact absurd ⟨host, place, cases, rejected, hplace, hplan, c, hc, name, opened, hopen⟩ h

/-- Exposed settings let an executor damage the fixtures. -/
theorem exists_damage_of_exposed (wf : fs.WellFormed) (accepted : s.Accepted fs)
    (h : s.Exposed fs) : ∃ execute : Executor, execute.Confined ∧ ¬s.KeepsFixtures fs execute := by
  obtain ⟨host, place, cases, rejected, hplace, hplan, c, hc, name, opened, hopen⟩ := h
  have hplan : plan s fs = .ok (cases, rejected) := plan_of_matches (Host.matches_default _) hplan
  -- a content that the file does not have yet
  obtain ⟨content, hnew⟩ : ∃ content,
      ¬∃ executable, fs.entry? (name :: place) = some (.file content executable) := by
    by_cases hempty : ∃ executable, fs.entry? (name :: place) = some (.file [] executable)
    · obtain ⟨executable, he⟩ := hempty
      refine ⟨[0], ?_⟩
      rintro ⟨other, hother⟩
      rw [he] at hother
      cases hother
    · exact ⟨[], hempty⟩
  refine ⟨.overwriting c.artifacts.actual content, confined_overwriting _ _, fun hkeeps => hnew ?_⟩
  obtain ⟨summary, after, hrun, hafter⟩ := files_of_runSuite wf accepted hplan
    (Host.starts_default s _) (.overwriting c.artifacts.actual content) ⟨fs, [], []⟩ rfl
  have hsame := hkeeps _ _ _ _ place rfl hrun hplace name content
  rw [hafter] at hsame
  exact hsame.mp (entry?_runAll_overwriting hc (unambiguous_of_plan wf accepted hplan).actual_differ
    hopen content)

/-- Only an output directory that goes up from a place that is missing is exposed. -/
theorem Settings.Exposed.goes_up (h : s.Exposed fs) (wf : fs.WellFormed) (free : fs.LinkFree)
    (accepted : s.Accepted fs) : .parent ∈ s.outputDir.components ∧
      ∃ loc ∈ trail (start fs.here s.outputDir) s.outputDir.names, fs.entry? loc = none := by
  obtain ⟨host, place, cases, rejected, hplace, hplan, c, hc, name, after, hopen⟩ := h
  have plans := plans_of_mem_plan wf accepted.sound hplan
  obtain ⟨made, hmade, hcreate⟩ := openOutput_eq_ok hopen
  have htouches := touches_makeParent c.artifacts.actual fs
  rw [hmade] at htouches
  have hone : Touch c.artifacts.actual ≤ TouchesOneOf cases := fun _ _ step => ⟨c, hc, step⟩
  have hgrows := (grows_of_touches place plans wf free
    (Relation.ReflTransGen.mono hone _ _ htouches)).1
  rw [(plans c hc).actual_eq] at hcreate
  obtain ⟨-, dir, henter, hin⟩ := create_eq_ok hgrows.free (plans c hc).output_normal
    ((Path.access_eq_ok_iff ..).mp hcreate).2
  obtain ⟨hdir, htrail⟩ := (enter_eq_ok_iff hgrows.wf ..).mp henter
  obtain ⟨-, rfl⟩ := List.cons.inj (openIn_eq_ok hin).1
  rw [hgrows.here_eq] at hdir htrail
  have hmissing : ¬∀ loc ∈ trail (start fs.here s.outputDir) s.outputDir.names,
      fs.entry? loc = some .directory :=
    fun there => accepted.destination_ne wf free hplace there hdir.symm
  constructor
  · rw [Path.parent_mem_components_iff]
    refine Classical.byContradiction fun hup => hmissing (directory_of_mem_trail wf hup ?_)
    rw [← hdir]
    exact directory_of_stat wf free hplace
  · obtain ⟨loc, hloc, hnot⟩ := by simpa only [not_forall] using hmissing
    exact ⟨loc, hloc, (hgrows.was_directory free (htrail loc hloc)).resolve_left hnot⟩

/-- No confined executor can damage the fixtures just if the settings are not
exposed. -/
theorem fixtures_kept_iff_not_exposed (wf : fs.WellFormed) (free : fs.LinkFree)
    (valid : s.validate fs = .ok ()) :
    (∀ execute : Executor, execute.Confined → s.KeepsFixtures fs execute) ↔ ¬s.Exposed fs := by
  have accepted := (s.validate_eq_ok_iff fs).mp valid
  constructor
  · intro hkeeps hexposed
    obtain ⟨execute, confined, hdamage⟩ := exists_damage_of_exposed wf accepted hexposed
    exact hdamage (hkeeps execute confined)
  · exact fun h execute confined => keepsFixtures_of_not_exposed wf free accepted h confined

theorem fixtures_kept_iff_not_exposed_example :
    exampleSettings.validate exampleFiles = .ok () ∧
      exampleSettings.KeepsFixtures exampleFiles (.overwriting (.ofString "o/out1.txt") [0x32]) := by
  have wf : exampleFiles.WellFormed := by decide +kernel
  have free : exampleFiles.LinkFree := by decide +kernel
  have valid : exampleSettings.validate exampleFiles = .ok () := by decide +kernel
  refine ⟨valid, (fixtures_kept_iff_not_exposed wf free valid).mpr (fun exposed => ?_) _
    (confined_overwriting _ _)⟩
  have hup := (exposed.goes_up wf free ((exampleSettings.validate_eq_ok_iff _).mp valid)).1
  exact absurd hup (by decide +kernel)

/-- Settings whose output directory climbs out of a directory that is missing. -/
def climbingSettings : Settings :=
  { exampleSettings with outputDir := .ofString "new/../f" }

/-- They are accepted, and a run of them takes an expected output away. -/
theorem expected_output_is_overwritten :
    exampleFiles.WellFormed ∧ exampleFiles.LinkFree ∧
      climbingSettings.validate exampleFiles = .ok () ∧
      ∃ execute : Executor, execute.Confined ∧ ∃ summary after,
        runSuite climbingSettings execute ⟨exampleFiles, [], []⟩ = .ok (summary, after) ∧
          exampleFiles.read (.ofString "f/out1.txt") = .ok [0x31] ∧
          after.files.read (.ofString "f/out1.txt") = .ok [0x32] := by
  have hplan := plan_of_list (s := climbingSettings) (Host.matches_default _) list_example
    (by decide +kernel) (by decide +kernel)
  refine ⟨by decide +kernel, by decide +kernel, by decide +kernel,
    .overwriting (.ofString "new/../f/out1.txt") [0x32], confined_overwriting _ _, _, _,
    runSuite_of_plan hplan (Host.starts_default _ _) _ rfl, by decide +kernel, by decide +kernel⟩

end Exposure

end GoldenFiles
