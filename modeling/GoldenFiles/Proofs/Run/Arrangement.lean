import GoldenFiles.Proofs.Run.Judged
import GoldenFiles.Proofs.Run.Pool

/-!
# Identifiers have one order

Numbers and texts are compared in three different ways, and still all of them
stand in one order, in which only an identifier itself stands where it does. So
there is just one way to arrange identifiers, and both lists that are sorted by
them show it: the fixtures that are discovered, whatever order their directory is
listed in, and the reports on cases, whatever order these are run in and however
the workers of a pool share them.
-/

namespace GoldenFiles

/-- The same identifiers, and none of them before a smaller one. -/
structure Arranges (arranged ids : List CaseId) : Prop where
  perm : arranged.Perm ids
  ordered : arranged.Pairwise fun a b => (compare a b).isLE

namespace Arranges

variable {arranged other ids : List CaseId}

theorem of_perm (h : Arranges arranged ids) (hp : ids.Perm other) : Arranges arranged other :=
  ⟨h.perm.trans hp, h.ordered⟩

/-- There is only one way to arrange identifiers. -/
theorem unique (h : Arranges arranged ids) (h' : Arranges other ids) : arranged = other := by
  refine (h.perm.trans h'.perm.symm).eq_of_pairwise (fun a b _ _ hab hba => ?_) h.ordered h'.ordered
  exact Std.LawfulEqOrd.eq_of_compare (Std.OrientedCmp.isLE_antisymm hab hba)

end Arranges

/-- Sorting by an identifier arranges the identifiers. -/
theorem arranges_sortedBy {α : Type} (key : α → CaseId) (items : List α) :
    Arranges ((sortedBy key items).map key) (items.map key) :=
  ⟨(sortedBy_perm key items).map key, List.pairwise_map.mpr (ordered_sortedBy key items)⟩

theorem existsUnique_arranges (ids : List CaseId) : ∃! arranged, Arranges arranged ids := by
  have hsorted : Arranges (sortedBy id ids) ids := by
    simpa only [List.map_id] using arranges_sortedBy id ids
  exact ⟨_, hsorted, fun other h => h.unique hsorted⟩

/-! ## The reports of a pool -/

/-- Terms that bind nobody. -/
def Terms.free : Terms where
  rely _ _ := True
  guarantee _ _ := True
  refl _ := trivial
  trans _ _ := trivial

theorem Task.safe_free {α : Type} (t : Task α) (fs : FileSystem) :
    t.Safe .free (fun _ _ => True) fs := by
  induction t generalizing fs with
  | done result => exact fun _ _ => trivial
  | call change next ih => exact fun gs _ => ⟨trivial, ih gs (change gs)⟩

/-- Whatever others do meanwhile, the report on a case has the identifier of the case. -/
theorem safe_task_id (script : Script) (c : TestCase) (fs : FileSystem) :
    (c.task script).Safe .free (fun report _ => report.id = c.id) fs := by
  have hdone (verdict : Verdict) (code : ExitCode) (gs : FileSystem) :
      (Task.done (c.report verdict code)).Safe .free (fun report _ => report.id = c.id) gs :=
    Task.safe_done fun _ _ => rfl
  rw [TestCase.task]
  split
  · exact hdone _ _ _
  · split
    · exact hdone _ _ _
    · refine (Task.safe_free _ fs).bind fun opened gs _ => ?_
      cases opened with
      | error e => exact hdone _ _ _
      | ok loc =>
          refine (Task.safe_free _ gs).bind fun _ gs _ => ?_
          exact (Task.safe_free _ gs).bind fun _ gs _ => hdone _ _ _

/-- A pool reports on its cases in their order, whichever of them is done first. -/
theorem Pool.ids_of_steps {script : Script} {cases : List TestCase} {fs gs : FileSystem}
    {reports : List CaseReport}
    (steps : Relation.ReflTransGen Step ⟨cases.map (TestCase.task script), fs⟩
      (finished reports gs)) : reports.map CaseReport.id = cases.map TestCase.id := by
  have compatible : Compatible (fun _ => .free) cases :=
    List.pairwise_of_forall fun _ _ => ⟨fun _ _ _ => trivial, fun _ _ _ => trivial⟩
  have hstart : Safe (fun _ => .free) (fun c report _ => report.id = c.id) cases
      ⟨cases.map (TestCase.task script), fs⟩ :=
    List.forall₂_map_right_iff.mpr (List.forall₂_same.mpr fun c _ => safe_task_id script c fs)
  have hids := post_of_finished (safe_of_steps compatible hstart steps)
  rw [eq_comm, ← List.forall₂_eq_eq_eq, List.forall₂_map_left_iff, List.forall₂_map_right_iff]
  exact hids.imp fun _ _ h => h.symm

/-! ## What is sorted -/

/-- The fixtures that are discovered do not show the order of the directory. -/
theorem discover_arranges {fs : FileSystem} {dir : Path} {scheme : Scheme} {host : Host}
    {found : Discovery} (h : discover fs dir scheme host = .ok found) : ∃ loc listing, fs.Lists dir loc listing ∧
      ((Discovery.fixturesIn scheme listing).map Fixture.id).Nodup ∧
      ∀ order, order.Perm listing → (Discovery.ofListing scheme order).fixtures = found.fixtures ∧
        Arranges (found.fixtures.map Fixture.id)
          ((Discovery.fixturesIn scheme order).map Fixture.id) := by
  obtain ⟨-, loc, listing, -, hl, rfl⟩ := (discover_eq_ok_iff ..).mp h
  refine ⟨loc, listing, hl, (Discovery.keysDiffer_fixtures hl.nodup).nodup_keys, ?_⟩
  intro order hp
  have hsame : (Discovery.ofListing scheme listing).fixtures =
      (Discovery.ofListing scheme order).fixtures := Discovery.fixtures_perm hl.nodup hp.symm
  refine ⟨hsame.symm, ?_⟩
  rw [hsame, Discovery.fixtures_ofListing]
  exact arranges_sortedBy Fixture.id _

/-- Neither do the reports show the order in which cases are run. -/
theorem runCases_arranges {cases order : List TestCase} (hp : order.Perm cases)
    (execute : Executor) (state : RunState) :
    Arranges ((runCases execute order state).1.map CaseReport.id) (cases.map TestCase.id) := by
  have harranged := arranges_sortedBy CaseReport.id (runInOrder execute order state).1
  rw [runInOrder_ids] at harranged
  exact harranged.of_perm (hp.map TestCase.id)

theorem keysDiffer_reports {cases : List TestCase} (h : (cases.map TestCase.id).Nodup)
    (execute : Executor) (state : RunState) :
    KeysDiffer CaseReport.id (runInOrder execute cases state).1 := by
  rw [← runInOrder_ids execute cases state] at h
  exact (List.pairwise_map.mp h).imp fun hne heq => hne (Std.LawfulEqOrd.eq_of_compare heq)

theorem pool_arranges {script : Script} {cases order : List TestCase} {fs gs : FileSystem}
    {reports : List CaseReport} (hp : order.Perm cases)
    (steps : Relation.ReflTransGen Pool.Step ⟨order.map (TestCase.task script), fs⟩
      (Pool.finished reports gs)) :
    Arranges ((sortedBy CaseReport.id reports).map CaseReport.id) (cases.map TestCase.id) := by
  have harranged := arranges_sortedBy CaseReport.id reports
  rw [Pool.ids_of_steps steps] at harranged
  exact harranged.of_perm (hp.map TestCase.id)

/-- Identifiers are totally ordered, and equal in that order only if they are the
same. So they can be arranged in one way, and in that way discovery and runs show
them, in whatever order they find them. -/
theorem ids_have_one_order :
    (∀ a b c : CaseId, compare a a = .eq ∧ compare b a = (compare a b).swap ∧
      ((compare a b).isLE → (compare b c).isLE → (compare a c).isLE) ∧
      (compare a b = .eq → a = b)) ∧
    (∀ ids : List CaseId, ∃! arranged, Arranges arranged ids) ∧
    (∀ fs dir scheme host found, discover fs dir scheme host = .ok found →
      ∃ loc listing, fs.Lists dir loc listing ∧
        ((Discovery.fixturesIn scheme listing).map Fixture.id).Nodup ∧
        ∀ order, order.Perm listing → (Discovery.ofListing scheme order).fixtures = found.fixtures ∧
          Arranges (found.fixtures.map Fixture.id)
            ((Discovery.fixturesIn scheme order).map Fixture.id)) ∧
    ∀ cases order : List TestCase, order.Perm cases →
      (∀ (execute : Executor) (state : RunState),
        Arranges ((runCases execute order state).1.map CaseReport.id) (cases.map TestCase.id) ∧
        ((order.map TestCase.id).Nodup → ∀ reports : List CaseReport,
          (runInOrder execute order state).1.Perm reports →
          (runCases execute order state).1 = sortedBy CaseReport.id reports)) ∧
      ∀ (script : Script) (fs gs : FileSystem) (reports : List CaseReport),
        Relation.ReflTransGen Pool.Step ⟨order.map (TestCase.task script), fs⟩
          (Pool.finished reports gs) →
        Arranges ((sortedBy CaseReport.id reports).map CaseReport.id) (cases.map TestCase.id) := by
  refine ⟨fun a b c => ⟨Std.ReflOrd.compare_self, Std.OrientedOrd.eq_swap, Std.TransOrd.isLE_trans,
    Std.LawfulEqOrd.eq_of_compare⟩, existsUnique_arranges, fun _ _ _ _ _ => discover_arranges, ?_⟩
  intro cases order hp
  refine ⟨fun execute state => ⟨runCases_arranges hp execute state, fun hids reports hreports => ?_⟩,
    fun _ _ _ _ => pool_arranges hp⟩
  exact sortedBy_eq_of_perm (keysDiffer_reports hids execute state) hreports

theorem ids_have_one_order_example :
    (∀ arranged, Arranges arranged [⟨"10"⟩, ⟨"b"⟩, ⟨"2"⟩, ⟨""⟩, ⟨"01"⟩, ⟨"1"⟩] →
      arranged = [⟨"01"⟩, ⟨"1"⟩, ⟨"2"⟩, ⟨"10"⟩, ⟨""⟩, ⟨"b"⟩]) ∧
    (compare (⟨"01"⟩ : CaseId) ⟨"b"⟩).isLE ∧
    (∃ loc listing, exampleFiles.Lists (.ofString "f") loc listing ∧
      (Discovery.ofListing {} listing.reverse).fixtures =
        Discovery.fixturesIn {} exampleListing) ∧
    (runCases (.scripted fun _ => .ok ([], some 0)) exampleCases.reverse
      { files := exampleFiles }).1.map CaseReport.id = [⟨"1"⟩, ⟨"2"⟩] := by
  obtain ⟨horder, hunique, hdiscover, hruns⟩ := ids_have_one_order
  have hsorted : Arranges [⟨"01"⟩, ⟨"1"⟩, ⟨"2"⟩, ⟨"10"⟩, ⟨""⟩, ⟨"b"⟩]
      [⟨"10"⟩, ⟨"b"⟩, ⟨"2"⟩, ⟨""⟩, ⟨"01"⟩, ⟨"1"⟩] :=
    ⟨by decide +kernel, by decide +kernel⟩
  have hfound : discover exampleFiles (.ofString "f") {} =
      .ok ⟨Discovery.fixturesIn {} exampleListing, Discovery.rejectedIn {} exampleListing⟩ :=
    discover_of_list (Host.matches_default _) list_example (by decide +kernel) (by decide +kernel)
  refine ⟨fun arranged h => (hunique _).unique h hsorted, ?_, ?_, ?_⟩
  · exact (horder ⟨"01"⟩ ⟨"10"⟩ ⟨"b"⟩).2.2.1 (by decide +kernel) (by decide +kernel)
  · obtain ⟨loc, listing, hl, -, hperm⟩ := hdiscover _ _ _ _ _ hfound
    exact ⟨loc, listing, hl, (hperm _ (List.reverse_perm listing)).1⟩
  · have hreports := ((hruns _ _ (List.reverse_perm exampleCases)).1
      (.scripted fun _ => .ok ([], some 0)) { files := exampleFiles }).1
    exact hreports.unique ⟨by decide +kernel, by decide +kernel⟩

end GoldenFiles
