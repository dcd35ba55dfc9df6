import GoldenFiles.Proofs.FileSystem.Opening
import GoldenFiles.Proofs.Naming.Names

/-!
# What accepted settings promise

Settings are accepted just if their naming scheme is sound, a program is set,
and the two directories are not one and the same. The comparison looks at the
file system, the paths of a case do not, so the promise that counts for them is
the weaker one that follows: the directories do not have the same components,
at least while the fixture directory is there.
-/

namespace GoldenFiles.Settings

open FileSystem

/-- What is known of settings that were accepted on a file system. -/
structure Accepted (s : Settings) (fs : FileSystem) : Prop where
  sound : s.scheme.Sound
  program : s.program.bytes ≠ []
  apart : fs.comparable s.fixturesDir ≠ fs.comparable s.outputDir

theorem validate_eq_ok_iff (s : Settings) (fs : FileSystem) :
    s.validate fs = .ok () ↔ s.Accepted fs := by
  have hfault : s.validate fs = .ok () ↔ s.fault? fs = none := by
    unfold validate
    cases s.fault? fs <;> simp
  rw [hfault, fault?]
  split
  · next fault h =>
      refine iff_of_false (by simp) fun accepted => ?_
      rw [(Scheme.fault?_eq_none_iff _).mpr accepted.sound] at h
      cases h
  · next h =>
      have sound := (Scheme.fault?_eq_none_iff _).mp h
      split
      · next hp => exact iff_of_false (by simp) fun accepted => accepted.program hp
      · next hp =>
          split
          · next hsame =>
              exact iff_of_false (by simp) fun accepted => accepted.apart (by
                simpa [FileSystem.sameDirectory] using hsame)
          · next hsame =>
              exact iff_of_true rfl ⟨sound, hp, by simpa [FileSystem.sameDirectory] using hsame⟩

/-- The two directories are spelled with different components if the fixture
directory is there to be listed. -/
theorem Accepted.not_same {s : Settings} {fs : FileSystem} (accepted : s.Accepted fs)
    {place : Location} (h : fs.stat s.fixturesDir = .ok (place, .directory)) :
    ¬s.fixturesDir.Same s.outputDir := by
  intro same
  have hfix := canonical?_of_stat h
  have hne : s.outputDir.bytes ≠ [] := by
    rw [Ne, ← Path.components_eq_nil_iff, ← same, Path.components_eq_nil_iff]
    intro hnil
    simp [canonical?, hnil] at hfix
  refine accepted.apart ?_
  rw [FileSystem.comparable, FileSystem.comparable, hfix, canonical?_of_same same hne h]

/-- The empty path is no place, but as a text it stands for the current directory. -/
theorem comparable_nil (fs : FileSystem) : fs.comparable ⟨[]⟩ = (pathOf fs.here).components := by
  have habs : (pathOf fs.here).isAbsolute = true := rfl
  rw [comparable]
  simp only [canonical?, if_true, Path.components_join_nil habs, List.filter_eq_self]
  intro c hc
  rw [Path.components_of_isAbsolute habs, List.mem_cons] at hc
  rcases hc with rfl | hc
  · rfl
  · obtain ⟨name, -, rfl⟩ := List.mem_map.mp hc
    unfold Path.ofName
    split <;> rfl

/-- An output directory that is there is not the fixture directory. -/
theorem Accepted.destination_ne {s : Settings} {fs : FileSystem} (accepted : s.Accepted fs)
    (wf : fs.WellFormed) (free : fs.LinkFree) {place : Location}
    (h : fs.stat s.fixturesDir = .ok (place, .directory))
    (there : ∀ loc ∈ trail (start fs.here s.outputDir) s.outputDir.names,
      fs.entry? loc = some .directory) :
    destination (start fs.here s.outputDir) s.outputDir.names ≠ place := by
  intro heq
  refine accepted.apart ?_
  have hfix : fs.comparable s.fixturesDir = (pathOf place).components := by
    rw [comparable, canonical?_of_stat h]
  rw [hfix]
  by_cases hb : s.outputDir.bytes = []
  · have hnil : s.outputDir = ⟨[]⟩ := congrArg Path.mk hb
    have hhere : place = fs.here := by rw [← heq, hnil]; rfl
    rw [hnil, hhere]
    exact (comparable_nil fs).symm
  · have henter : fs.enter (start fs.here s.outputDir) (steps s.outputDir) = .ok place := by
      rw [enter_steps]
      exact (enter_eq_ok_iff wf ..).mpr ⟨heq.symm, there⟩
    have hwalk := walk_enter free true maxLinks (start fs.here s.outputDir) (steps s.outputDir)
    rw [henter] at hwalk
    rw [comparable, canonical?, if_neg hb, hwalk]

end GoldenFiles.Settings
