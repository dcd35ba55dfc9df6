import GoldenFiles.Run.Pool
import Mathlib.Data.List.Forall2
import Mathlib.Logic.Relation

/-!
# Tasks that rely on each other

A task on its own does what the function it was made from does: the `run_`
lemmas say so, up to `run_task` for a whole case. In a pool it is `Safe` if it
comes to a good end on every file system that the others may leave it between
two calls, as long as they keep to what it relies on, and if each of its own
calls keeps to what it guarantees.

The two sides meet in `Pool.safe_of_steps`: where the guarantee of each task is
within what every other one relies on, safe tasks stay safe whatever the order
of their calls. Running one case after the other is one of these orders.
-/

namespace GoldenFiles

namespace Task

variable {α β : Type}

/-! ## Running a task alone -/

@[simp] theorem run_done (result : α) (fs : FileSystem) : (done result).run fs = (result, fs) := rfl

@[simp] theorem run_once (f : FileSystem → α × FileSystem) (fs : FileSystem) :
    (once f).run fs = f fs := rfl

@[simp] theorem run_look (f : FileSystem → α) (fs : FileSystem) :
    (look f).run fs = (f fs, fs) := rfl

@[simp] theorem run_bind (t : Task α) (k : α → Task β) (fs : FileSystem) :
    (t.bind k).run fs = (k (t.run fs).1).run (t.run fs).2 := by
  induction t generalizing fs with
  | done result => rfl
  | call change next ih => exact ih fs (change fs)

theorem run_unlessDirectory (dir : Path) (e : IoError) (fs : FileSystem) :
    (unlessDirectory dir e).run fs = (if fs.isDirectory dir then .ok () else .error e, fs) := by
  rw [unlessDirectory, run_bind, run_look]
  rfl

theorem run_makeNested (dirs : List Path) (fs : FileSystem) :
    (makeNested dirs).run fs = fs.makeNested dirs := by
  induction dirs generalizing fs with
  | nil => rfl
  | cons dir above ih =>
      rw [makeNested, FileSystem.makeNested]
      split
      · rfl
      · rw [run_bind, attempt, run_once]
        cases hfirst : dir.access (fs.makeDirectory dir) with
        | ok gs => rfl
        | error e =>
            by_cases hmissing : e = .os .noEntry
            · subst hmissing
              simp only []
              rw [run_bind, ih]
              generalize fs.makeNested above = made
              obtain ⟨_ | _, gs⟩ := made
              · rfl
              · simp only []
                rw [run_bind, attempt, run_once]
                cases hsecond : gs.makeDirectory dir with
                | ok hs => rfl
                | error e => exact run_unlessDirectory ..
            · cases e with
              | described text => exact run_unlessDirectory ..
              | os condition => cases condition <;> first
                  | exact absurd rfl hmissing
                  | exact run_unlessDirectory ..

theorem run_makeParent (actual : Path) (fs : FileSystem) :
    (makeParent actual).run fs = fs.makeParent actual := by
  rw [makeParent, FileSystem.makeParent]
  cases actual.parent? with
  | none => rfl
  | some dir =>
      simp only []
      split
      · rfl
      · rw [run_bind, run_makeNested, FileSystem.makeDirectories]
        generalize fs.makeNested dir.ancestors = made
        obtain ⟨_ | _, gs⟩ := made <;> rfl

theorem run_openOutput (actual : Path) (fs : FileSystem) :
    (openOutput actual).run fs = fs.openOutput actual := by
  rw [openOutput, FileSystem.openOutput, run_bind, run_makeParent]
  generalize fs.makeParent actual = made
  obtain ⟨_ | _, gs⟩ := made
  · rfl
  · rfl

end Task

theorem run_comparing (c : TestCase) (fs : FileSystem) :
    c.comparing.run fs = (fs.compareFiles c.artifacts, fs) := by
  rw [TestCase.comparing, FileSystem.compareFiles, Task.run_bind, Task.read, Task.run_look]
  cases c.artifacts.expected.access (fs.read c.artifacts.expected) with
  | error e => rfl
  | ok expected =>
      simp only [Except.mapError, Task.run_bind, Task.read, Task.run_look]
      cases c.artifacts.actual.access (fs.read c.artifacts.actual) <;> rfl

theorem judge_eq_ofComparison (fs : FileSystem) (artifacts : Artifacts) :
    fs.judge artifacts = .ofComparison (fs.compareFiles artifacts) := by
  rw [FileSystem.judge]
  rcases fs.compareFiles artifacts with e | _ | _ <;> rfl

/-- The task of a case, run alone, is the case run alone. -/
theorem run_task (script : Script) (c : TestCase) (state : RunState) :
    (c.task script).run state.files =
      ((runCase (.scripted script) c state).1, (runCase (.scripted script) c state).2.files) := by
  rw [TestCase.task, runCase]
  simp only []
  split
  · rfl
  · rw [Executor.scripted]
    cases script c.input with
    | error e => rfl
    | ok made =>
        obtain ⟨output, code⟩ := made
        simp only [Task.run_bind, Task.run_openOutput]
        generalize state.files.openOutput c.artifacts.actual = opened
        obtain ⟨_ | loc, gs⟩ := opened
        · rfl
        · simp only [Task.run_bind, Task.run_once, run_comparing, Task.run_done,
            judge_eq_ofComparison]
          rfl

/-! ## Tasks that others cannot lead astray -/

/-- What a task may rely on between two of its calls, and what it guarantees the
others about each of them. -/
structure Terms where
  rely : FileSystem → FileSystem → Prop
  guarantee : FileSystem → FileSystem → Prop
  refl : ∀ fs, rely fs fs
  trans : ∀ {fs gs hs}, rely fs gs → rely gs hs → rely fs hs

namespace Task

variable {α β : Type}

/-- A task that keeps to its terms and comes to a good end if the others do. -/
def Safe (terms : Terms) (post : α → FileSystem → Prop) : Task α → FileSystem → Prop
  | done result, fs => ∀ gs, terms.rely fs gs → post result gs
  | call change next, fs => ∀ gs, terms.rely fs gs →
      terms.guarantee gs (change gs) ∧ (next gs).Safe terms post (change gs)

variable {terms : Terms} {post : α → FileSystem → Prop} {goal : β → FileSystem → Prop}
  {t : Task α} {fs gs : FileSystem}

theorem Safe.of_rely (h : t.Safe terms post fs) (hr : terms.rely fs gs) : t.Safe terms post gs := by
  cases t with
  | done result => exact fun hs hrest => h hs (terms.trans hr hrest)
  | call change next => exact fun hs hrest => h hs (terms.trans hr hrest)

theorem safe_done {result : α} (h : ∀ gs, terms.rely fs gs → post result gs) :
    (done result).Safe terms post fs := h

theorem Safe.mono {other : α → FileSystem → Prop} (h : t.Safe terms post fs)
    (hpost : ∀ result gs, post result gs → other result gs) : t.Safe terms other fs := by
  induction t generalizing fs with
  | done result => exact fun gs hr => hpost result gs (h gs hr)
  | call change next ih => exact fun gs hr => ⟨(h gs hr).1, ih gs (h gs hr).2⟩

/-- A task is followed by one that is safe wherever the first one may end. -/
theorem Safe.bind {k : α → Task β} (h : t.Safe terms post fs)
    (hk : ∀ result gs, post result gs → (k result).Safe terms goal gs) :
    (t.bind k).Safe terms goal fs := by
  induction t generalizing fs with
  | done result => exact hk result fs (h fs (terms.refl fs))
  | call change next ih =>
      intro gs hr
      obtain ⟨hg, hnext⟩ := h gs hr
      exact ⟨hg, ih gs hnext⟩

theorem safe_once {f : FileSystem → α × FileSystem}
    (h : ∀ gs, terms.rely fs gs → terms.guarantee gs (f gs).2 ∧
      ∀ hs, terms.rely (f gs).2 hs → post (f gs).1 hs) : (once f).Safe terms post fs := h

theorem Safe.run (h : t.Safe terms post fs) : post (t.run fs).1 (t.run fs).2 := by
  induction t generalizing fs with
  | done result => exact h fs (terms.refl fs)
  | call change next ih => exact ih fs (h fs (terms.refl fs)).2

end Task

namespace Pool

variable {ι : Type} {terms : ι → Terms} {post : ι → CaseReport → FileSystem → Prop}

/-- A pool whose tasks are safe, each on the terms of its owner. -/
def Safe (terms : ι → Terms) (post : ι → CaseReport → FileSystem → Prop) (owners : List ι)
    (pool : Pool) : Prop :=
  List.Forall₂ (fun i t => t.Safe (terms i) (post i) pool.files) owners pool.tasks

/-- What each owner guarantees is within what every other one relies on. -/
def Compatible (terms : ι → Terms) (owners : List ι) : Prop :=
  owners.Pairwise fun i j => (terms i).guarantee ≤ (terms j).rely ∧
    (terms j).guarantee ≤ (terms i).rely

theorem safe_call {change : FileSystem → FileSystem} {next : FileSystem → Task CaseReport}
    {fs : FileSystem} {before after : List (Task CaseReport)} {owners : List ι}
    (compatible : Compatible terms owners)
    (h : Safe terms post owners ⟨before ++ .call change next :: after, fs⟩) :
    Safe terms post owners ⟨before ++ next fs :: after, change fs⟩ ∧
      ∃ i ∈ owners, (terms i).guarantee fs (change fs) := by
  unfold Safe at h ⊢
  induction before generalizing owners with
  | nil =>
      rw [List.nil_append] at h
      cases h with
      | cons hcall hrest =>
          obtain ⟨hhead, -⟩ := List.pairwise_cons.mp compatible
          obtain ⟨hg, hnext⟩ := hcall fs ((terms _).refl fs)
          refine ⟨.cons hnext ?_, _, List.mem_cons_self, hg⟩
          refine ((List.forall₂_and_left _ _).mpr ⟨fun j hj => hj, hrest⟩).imp ?_
          rintro j t ⟨hj, ht⟩
          exact ht.of_rely ((hhead j hj).1 _ _ hg)
  | cons t before ih =>
      rw [List.cons_append] at h
      cases h with
      | cons ht hrest =>
          obtain ⟨hhead, htail⟩ := List.pairwise_cons.mp compatible
          obtain ⟨hsafe, j, hj, hg⟩ := ih htail hrest
          exact ⟨.cons (ht.of_rely ((hhead j hj).2 _ _ hg)) hsafe, j, List.mem_cons_of_mem _ hj, hg⟩

/-- However the calls of safe tasks come to be ordered, the tasks stay safe. -/
theorem safe_of_steps {owners : List ι} {pool other : Pool} (compatible : Compatible terms owners)
    (h : Safe terms post owners pool) (steps : Relation.ReflTransGen Step pool other) :
    Safe terms post owners other := by
  induction steps with
  | refl => exact h
  | tail _ step ih =>
      cases step with
      | call before after change next fs => exact (safe_call compatible ih).1

/-- What no owner's guarantee allows to break stays as it is. -/
theorem invariant_of_steps {owners : List ι} {pool other : Pool} {inv : FileSystem → Prop}
    (compatible : Compatible terms owners) (h : Safe terms post owners pool)
    (keeps : ∀ i ∈ owners, ∀ fs gs, (terms i).guarantee fs gs → inv fs → inv gs)
    (start : inv pool.files) (steps : Relation.ReflTransGen Step pool other) : inv other.files := by
  induction steps with
  | refl => exact start
  | tail earlier step ih =>
      have hsafe := safe_of_steps compatible h earlier
      cases step with
      | call before after change next fs =>
          obtain ⟨i, hi, hg⟩ := (safe_call compatible hsafe).2
          exact keeps i hi _ _ hg ih

theorem post_of_finished {owners : List ι} {reports : List CaseReport} {fs : FileSystem}
    (h : Safe terms post owners (finished reports fs)) :
    List.Forall₂ (fun i report => post i report fs) owners reports :=
  (List.forall₂_map_right_iff.mp h).imp fun i _ hdone => hdone fs ((terms i).refl fs)

/-! ## Every pool comes to an end -/

/-- One of some tasks makes its next call, whatever the file system is. -/
inductive Advance : List (Task CaseReport) → List (Task CaseReport) → Prop where
  | call (before after : List (Task CaseReport)) (change : FileSystem → FileSystem)
      (next : FileSystem → Task CaseReport) (fs : FileSystem) :
      Advance (before ++ next fs :: after) (before ++ .call change next :: after)

theorem Advance.cons_cases {t : Task CaseReport} {tasks later : List (Task CaseReport)}
    (h : Advance later (t :: tasks)) :
    (∃ change next fs, t = .call change next ∧ later = next fs :: tasks) ∨
      ∃ rest, Advance rest tasks ∧ later = t :: rest := by
  generalize hall : t :: tasks = all at h
  cases h with
  | call before after change next fs =>
      cases before with
      | nil =>
          obtain ⟨rfl, rfl⟩ := List.cons.inj hall
          exact .inl ⟨change, next, fs, rfl, rfl⟩
      | cons first before =>
          obtain ⟨rfl, rfl⟩ := List.cons.inj hall
          exact .inr ⟨_, .call before after change next fs, rfl⟩

/-- The first task gets smaller while the others stay, or one of the others advances. -/
theorem acc_cons (t : Task CaseReport) {tasks : List (Task CaseReport)} (h : Acc Advance tasks) :
    Acc Advance (t :: tasks) := by
  induction t generalizing tasks with
  | done result =>
      induction h with
      | intro tasks _ ih =>
          refine ⟨_, fun later hstep => ?_⟩
          rcases hstep.cons_cases with ⟨change, next, fs, heq, -⟩ | ⟨rest, hrest, rfl⟩
          · cases heq
          · exact ih rest hrest
  | call change next ihcall =>
      induction h with
      | intro tasks hacc ih =>
          refine ⟨_, fun later hstep => ?_⟩
          rcases hstep.cons_cases with ⟨change, next, fs, heq, rfl⟩ | ⟨rest, hrest, rfl⟩
          · obtain ⟨-, rfl⟩ := Task.call.inj heq
            exact ihcall fs ⟨tasks, hacc⟩
          · exact ih rest hrest

theorem acc_advance (tasks : List (Task CaseReport)) : Acc Advance tasks := by
  induction tasks with
  | nil =>
      refine ⟨_, fun later h => ?_⟩
      generalize hnil : ([] : List (Task CaseReport)) = tasks at h
      cases h with
      | call before => cases before <;> cases hnil
  | cons t tasks ih => exact acc_cons t ih

/-- No pool goes on forever, in whatever order its tasks are called. -/
theorem wellFounded_step : WellFounded fun later earlier : Pool => Step earlier later := by
  refine Subrelation.wf ?_ (InvImage.wf Pool.tasks ⟨acc_advance⟩)
  intro later earlier h
  cases h with
  | call before after change next fs => exact .call before after change next fs

/-! ## One after the other is one of the orders -/

theorem steps_run (before after : List (Task CaseReport)) (t : Task CaseReport) (fs : FileSystem) :
    Relation.ReflTransGen Step ⟨before ++ t :: after, fs⟩
      ⟨before ++ .done (t.run fs).1 :: after, (t.run fs).2⟩ := by
  induction t generalizing fs with
  | done result => exact .refl
  | call change next ih => exact .head (.call before after change next fs) (ih fs (change fs))

/-- No pool gets stuck: its tasks can be run one after the other. -/
theorem exists_finished (reports : List CaseReport) (tasks : List (Task CaseReport))
    (fs : FileSystem) : ∃ more gs,
      Relation.ReflTransGen Step ⟨reports.map .done ++ tasks, fs⟩ (finished (reports ++ more) gs) := by
  induction tasks generalizing reports fs with
  | nil =>
      refine ⟨[], fs, ?_⟩
      rw [List.append_nil, List.append_nil]
      exact .refl
  | cons t tasks ih =>
      have hfirst := steps_run (reports.map .done) tasks t fs
      obtain ⟨more, gs, hrest⟩ := ih (reports ++ [(t.run fs).1]) (t.run fs).2
      rw [List.map_append, List.append_assoc, List.append_assoc] at hrest
      exact ⟨_, gs, hfirst.trans hrest⟩

theorem steps_runInOrder (script : Script) (cases : List TestCase) (reports : List CaseReport)
    (state : RunState) :
    Relation.ReflTransGen Step
      ⟨reports.map .done ++ cases.map (TestCase.task script), state.files⟩
      (finished (reports ++ (runInOrder (.scripted script) cases state).1)
        (runInOrder (.scripted script) cases state).2.files) := by
  induction cases generalizing reports state with
  | nil =>
      rw [runInOrder, List.map_nil, List.append_nil, List.append_nil]
      exact .refl
  | cons c cases ih =>
      have hfirst := steps_run (reports.map .done) (cases.map (TestCase.task script))
        (c.task script) state.files
      rw [run_task] at hfirst
      have hrest := ih (reports ++ [(runCase (.scripted script) c state).1])
        (runCase (.scripted script) c state).2
      rw [List.map_append, List.append_assoc, List.append_assoc] at hrest
      exact hfirst.trans hrest

end Pool

end GoldenFiles
