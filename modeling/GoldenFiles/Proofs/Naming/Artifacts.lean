import GoldenFiles.Proofs.Naming.Names
import GoldenFiles.Proofs.Path.Parents

/-!
# The outputs of a case

Both outputs of a case get one name. It is appended to the output directory for the one
and put in the place of the input's name for the other, and both happen to texts, while
the question whether two paths are one is asked of their components. What joins the two
is that the name is a single ordinary component, whatever the identifier: then either
path is a directory's path with one component behind it, and cutting that off again gives
the directory, not as it was spelled but with the same components.

So the directories of a case stay as they were, and the last component, which holds the
identifier, keeps the outputs of different cases apart, in one directory or in several.
-/

namespace GoldenFiles

/-- Outputs of one name, the actual one in a directory and the expected one beside an input. -/
structure Artifacts.Placed (artifacts : Artifacts) (name : Name) (input outputDir : Path) :
    Prop where
  actual_name : artifacts.actual.fileName? = some name
  expected_name : artifacts.expected.fileName? = some name
  actual_parent : ∃ dir, artifacts.actual.parent? = some dir ∧ dir.Same outputDir
  expected_parent : ∃ dir beside, artifacts.expected.parent? = some dir ∧
    input.parent? = some beside ∧ dir.Same beside

namespace Path

variable {p : Path} {name last : Name}

theorem fileName?_join (h : NormalName name) : (p.join ⟨name⟩).fileName? = some name := by
  rw [fileName?, splitLast?_join h]

theorem same_parent_join (h : NormalName name) :
    ∃ dir, (p.join ⟨name⟩).parent? = some dir ∧ dir.Same p :=
  ⟨p.trimmed, parent?_join h, components_trimmed p⟩

/-- A name in the place of another one leaves the directory. -/
theorem same_parent_withFileName (h : NormalName name)
    (hlast : p.components.getLast? = some (.normal last)) : ∃ dir beside,
      (p.withFileName ⟨name⟩).parent? = some dir ∧ p.parent? = some beside ∧ dir.Same beside := by
  obtain ⟨beside, hsplit, -⟩ := splitLast?_of_getLast? hlast
  have hjoin : p.withFileName ⟨name⟩ = beside.join ⟨name⟩ := by
    rw [withFileName, hsplit]
  obtain ⟨dir, hdir, same⟩ := same_parent_join (p := beside) h
  refine ⟨dir, beside, hjoin ▸ hdir, ?_, same⟩
  rw [parent?, hsplit]
  rfl

theorem getLast?_components_join (h : NormalName name) :
    (p.join ⟨name⟩).components.getLast? = some (.normal name) := by
  rw [components_join h, List.getLast?_concat]

theorem getLast?_components_withFileName (h : NormalName name) :
    (p.withFileName ⟨name⟩).components.getLast? = some (.normal name) := by
  obtain ⟨q, hq⟩ := p.withFileName_eq_join ⟨name⟩
  rw [hq, getLast?_components_join h]

end Path

namespace Scheme

variable {scheme : Scheme} {id other : CaseId}

/-- Outputs of different identifiers have different last components, wherever they are. -/
theorem outputs_apart (sound : scheme.Sound) (hid : '/' ∉ id.text.toList)
    (hother : '/' ∉ other.text.toList) (hne : other ≠ id) (input otherInput : Path)
    (outputDir otherDir : Path) :
    ¬(scheme.artifacts other otherInput otherDir).actual.Same
        (scheme.artifacts id input outputDir).actual ∧
      ¬(scheme.artifacts other otherInput otherDir).expected.Same
        (scheme.artifacts id input outputDir).expected := by
  have hname := sound.outputName_normal hid
  have hothername := sound.outputName_normal hother
  have apart : Component.normal (Utf8.encode (scheme.outputName other)) ≠
      .normal (Utf8.encode (scheme.outputName id)) := by
    intro h
    exact hne (scheme.outputName_injective (Utf8.encode_injective (Component.normal.inj h)))
  constructor
  · intro same
    have hlast := congrArg List.getLast? same
    simp only [artifacts, Path.ofString, Path.getLast?_components_join hname,
      Path.getLast?_components_join hothername] at hlast
    exact apart (Option.some.inj hlast)
  · intro same
    have hlast := congrArg List.getLast? same
    simp only [artifacts, Path.ofString, Path.getLast?_components_withFileName hname,
      Path.getLast?_components_withFileName hothername] at hlast
    exact apart (Option.some.inj hlast)

/-- The outputs of a case have the name that is made from its identifier, the directories
are the output directory and the input's, and no other identifier has the same outputs. -/
theorem artifacts_placed_apart (faultless : scheme.fault? = none) (hid : '/' ∉ id.text.toList)
    {input : Path} {last : Name} (file : input.components.getLast? = some (.normal last))
    (outputDir : Path) :
    (scheme.artifacts id input outputDir).Placed
        (Utf8.encode (scheme.outputMarker ++ id.text ++ "." ++ scheme.expectedExtension))
        input outputDir ∧
      ∀ other : CaseId, '/' ∉ other.text.toList → other ≠ id → ∀ otherInput otherDir : Path,
        ¬(scheme.artifacts other otherInput otherDir).actual.Same
            (scheme.artifacts id input outputDir).actual ∧
          ¬(scheme.artifacts other otherInput otherDir).expected.Same
            (scheme.artifacts id input outputDir).expected := by
  have sound := (fault?_eq_none_iff scheme).mp faultless
  have hname := sound.outputName_normal hid
  constructor
  · refine ⟨Path.fileName?_join hname, ?_, Path.same_parent_join hname,
      Path.same_parent_withFileName hname file⟩
    obtain ⟨q, hq⟩ := input.withFileName_eq_join (.ofString (scheme.outputName id))
    show (input.withFileName (.ofString (scheme.outputName id))).fileName? = _
    rw [hq]
    exact Path.fileName?_join hname
  · intro other hother hne otherInput otherDir
    exact outputs_apart sound hid hother hne input otherInput outputDir otherDir

/-- A path that is spelled with as much as means nothing, and a marker in the name of a
directory. -/
theorem artifacts_placed_apart_example :
    (Path.ofString "inputs//./main/in7.py/./").components.getLast? =
        some (.normal (Utf8.encode "in7.py")) ∧
      (({} : Scheme).artifacts ⟨"7"⟩ (.ofString "inputs//./main/in7.py/./")
        (.ofString "bin/out/")).Placed (Utf8.encode "out7.txt")
          (.ofString "inputs//./main/in7.py/./") (.ofString "bin/out/") ∧
      ¬(({} : Scheme).artifacts ⟨"07"⟩ (.ofString "inputs/main/in07.py")
        (.ofString "bin/out")).actual.Same (.ofString "bin/out/out7.txt") := by
  have file : (Path.ofString "inputs//./main/in7.py/./").components.getLast? =
      some (.normal (Utf8.encode "in7.py")) := by decide +kernel
  have hfault : ({} : Scheme).fault? = none := by decide +kernel
  have hid : '/' ∉ (CaseId.mk "7").text.toList := by decide
  have hplaced := artifacts_placed_apart hfault hid file (.ofString "bin/out/")
  have hother := hplaced.2 ⟨"07"⟩ (by decide) (by decide) (.ofString "inputs/main/in07.py")
    (.ofString "bin/out")
  have hname : Utf8.encode (({} : Scheme).outputMarker ++ "7" ++ "." ++
      ({} : Scheme).expectedExtension) = Utf8.encode "out7.txt" := by decide +kernel
  refine ⟨file, hname ▸ hplaced.1, ?_⟩
  have hactual : (({} : Scheme).artifacts ⟨"7"⟩ (.ofString "inputs//./main/in7.py/./")
      (.ofString "bin/out/")).actual = .ofString "bin/out/out7.txt" := by decide +kernel
  exact hactual ▸ hother.1

end Scheme

end GoldenFiles
