import GoldenFiles.CommandLine.Arguments
import GoldenFiles.Proofs.Path.Text

/-!
# Settings that were read are text

Words of a command line and scalars of a document are text, and the directories
of a run are spelled by them. So the assumption of the report, that the paths
of the two directories are text, holds for all settings that were read.
-/

namespace GoldenFiles

/-- A layer that gives only text for the two directories. -/
structure Layer.IsText (layer : Layer) : Prop where
  fixturesDir : ∀ p, layer.fixturesDir = some p → p.IsText
  outputDir : ∀ p, layer.outputDir = some p → p.IsText

namespace Layer

theorem isText_empty : IsText {} := by
  constructor
  · intro p h
    cases h
  · intro p h
    cases h

theorem IsText.over {layer : Layer} (h : layer.IsText) {s : Settings}
    (fixtures : s.fixturesDir.IsText) (output : s.outputDir.IsText) :
    (layer.over s).fixturesDir.IsText ∧ (layer.over s).outputDir.IsText := by
  constructor
  · show (layer.fixturesDir.getD s.fixturesDir).IsText
    cases hdir : layer.fixturesDir with
    | none => exact fixtures
    | some p => exact h.fixturesDir p hdir
  · show (layer.outputDir.getD s.outputDir).IsText
    cases hdir : layer.outputDir with
    | none => exact output
    | some p => exact h.outputDir p hdir

theorem IsText.set_fixturesDir {layer : Layer} (h : layer.IsText) (text : String) :
    IsText { layer with fixturesDir := some (.ofString text) } :=
  ⟨fun _ hp => Option.some.inj hp ▸ Path.isText_ofString text, h.outputDir⟩

theorem IsText.set_outputDir {layer : Layer} (h : layer.IsText) (text : String) :
    IsText { layer with outputDir := some (.ofString text) } :=
  ⟨h.fixturesDir, fun _ hp => Option.some.inj hp ▸ Path.isText_ofString text⟩

/-! ## Documents -/

theorem IsText.of_set? {find : Yaml.Node → Option Yaml.Node} {layer : Layer} (h : layer.IsText)
    {key : Key} {node : Yaml.Node} {after : Layer} (hset : layer.set? find key node = some after) :
    after.IsText := by
  cases key with
  | fixturesDir =>
      obtain ⟨text, -, rfl⟩ := Option.map_eq_some_iff.mp hset
      exact h.set_fixturesDir text
  | outputDir =>
      obtain ⟨text, -, rfl⟩ := Option.map_eq_some_iff.mp hset
      exact h.set_outputDir text
  | programArgs =>
      obtain ⟨items, -, hitems⟩ := Option.bind_eq_some_iff.mp hset
      obtain ⟨args, -, rfl⟩ := Option.map_eq_some_iff.mp hitems
      exact ⟨h.fixturesDir, h.outputDir⟩
  | program | inputMarker | outputMarker | inputExtension | expectedExtension | jobs
  | timeoutSecs | filter | stderr =>
      obtain ⟨value, -, rfl⟩ := Option.map_eq_some_iff.mp hset
      exact ⟨h.fixturesDir, h.outputDir⟩

theorem IsText.of_setAll? {find : Yaml.Node → Option Yaml.Node} {layer : Layer}
    (h : layer.IsText) {entries : List (Yaml.Node × Yaml.Node)} {after : Layer}
    (hset : layer.setAll? find entries = some after) : after.IsText := by
  induction entries generalizing layer with
  | nil =>
      obtain rfl := Option.some.inj hset
      exact h
  | cons entry entries ih =>
      rw [setAll?] at hset
      split at hset
      · cases hset
      · split at hset
        · cases hset
        · split at hset
          · cases hset
          · next hone => exact ih (h.of_set? hone) hset

theorem isText_of_ofText? {text : List Char} {layer : Layer} (h : ofText? text = some layer) :
    layer.IsText := by
  unfold ofText? at h
  split at h
  · cases h
  · obtain rfl := Option.some.inj h
    exact isText_empty
  · obtain ⟨entries, -, hset⟩ := Option.bind_eq_some_iff.mp h
    exact isText_empty.of_setAll? hset

theorem isText_of_layer {fs : FileSystem} {path : Path} {layer : Layer}
    (h : fs.layer path = .ok layer) : layer.IsText := by
  unfold FileSystem.layer at h
  split at h
  · cases h
  · split at h
    · cases h
    · split at h
      · cases h
      · next hread =>
          obtain rfl := Except.ok.inj h
          exact isText_of_ofText? hread

end Layer

/-! ## Command lines -/

namespace CommandLine.Arguments

variable {a after : Arguments}

theorem isText_of_set (h : a.layer.IsText) {p : Parameter} {value : List Char}
    (hset : a.set p value = .ok after) : after.layer.IsText := by
  have hsame : ∀ b : Arguments, b.layer.fixturesDir = a.layer.fixturesDir →
      b.layer.outputDir = a.layer.outputDir → b.layer.IsText := by
    intro b hf ho
    exact ⟨fun q hq => h.fixturesDir q (hf ▸ hq), fun q hq => h.outputDir q (ho ▸ hq)⟩
  unfold set at hset
  cases p with
  | fixtures =>
      simp only [] at hset
      split at hset
      · cases hset
      · obtain rfl := Except.ok.inj hset
        exact h.set_fixturesDir (String.ofList value)
  | output =>
      simp only [] at hset
      split at hset
      · cases hset
      · obtain rfl := Except.ok.inj hset
        exact h.set_outputDir (String.ofList value)
  | arg | inputMarker | outputMarker | inputExtension | expectedExtension | filter =>
      obtain rfl := Except.ok.inj hset
      exact hsame _ rfl rfl
  | program | config =>
      simp only [] at hset
      split at hset
      · cases hset
      · obtain rfl := Except.ok.inj hset
        exact hsame _ rfl rfl
  | jobs | timeout | stderr | format | color =>
      simp only [] at hset
      split at hset
      · obtain rfl := Except.ok.inj hset
        exact hsame _ rfl rfl
      · cases hset

theorem isText_of_give (h : a.layer.IsText) {p : Parameter} {value : List Char}
    (hgive : a.give p value = .ok after) : after.layer.IsText := by
  unfold give at hgive
  split at hgive
  · cases hgive
  · exact isText_of_set h hgive

theorem isText_of_add (h : a.layer.IsText) {o : Occurrence} (hadd : a.add o = .ok after) :
    after.layer.IsText := by
  unfold add at hadd
  split at hadd
  · split at hadd
    · cases hadd
    · obtain rfl := Except.ok.inj hadd
      exact h
  · obtain rfl := Except.ok.inj hadd
    exact h
  · cases hadd
  · cases hadd
  · exact isText_of_give h hadd
  · exact isText_of_give h hadd
  · cases hadd

theorem isText_of_addAll (h : a.layer.IsText) {occurrences : List Occurrence}
    (hadd : a.addAll occurrences = .ok after) : after.layer.IsText := by
  induction occurrences generalizing a with
  | nil =>
      obtain rfl := Except.ok.inj hadd
      exact h
  | cons o occurrences ih =>
      rw [addAll] at hadd
      split at hadd
      · cases hadd
      · next hone => exact ih (isText_of_add h hone) hadd

theorem isText_of_ofWords {words : List String} (h : ofWords words = .ok a) :
    a.layer.IsText := by
  unfold ofWords at h
  simp only [] at h
  split at h
  · cases h
  · next hadd =>
      split at h
      · cases h
      · obtain rfl := Except.ok.inj h
        exact isText_of_addAll Layer.isText_empty hadd

/-- The directories of settings that come from a command line are text. -/
theorem isText_of_settings {words : List String} (parsed : ofWords words = .ok a)
    {fs : FileSystem} {s : Settings} (h : a.settings fs = .ok s) :
    s.fixturesDir.IsText ∧ s.outputDir.IsText := by
  have hfile : ∀ file, a.fileLayer fs = .ok file → file.IsText := by
    intro file hfile
    unfold fileLayer at hfile
    split at hfile
    · obtain rfl := Except.ok.inj hfile
      exact Layer.isText_empty
    · exact Layer.isText_of_layer hfile
  unfold settings at h
  split at h
  · cases h
  · next file hloaded =>
      simp only [] at h
      split at h
      · cases h
      · obtain rfl := Except.ok.inj h
        obtain ⟨fixtures, output⟩ : (file.over {}).fixturesDir.IsText ∧
            (file.over {}).outputDir.IsText :=
          (hfile file hloaded).over (Path.isText_ofString _) (Path.isText_ofString _)
        exact (isText_of_ofWords parsed).over fixtures output

end CommandLine.Arguments

end GoldenFiles
