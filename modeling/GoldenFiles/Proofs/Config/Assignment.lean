import GoldenFiles.Config.Document

/-!
# Settings key by key

Settings and layers are records with one field for every key, and what is said
of layering is said of every field. So both are read here as functions of a key,
with a value type that depends on it: `Settings.value` and `Layer.value?`. Laying
one over the other is then one equation, and a record is known when all its
values are.

A document of settings is an assignment in the same sense. Its entries are
acceptable if each name is known and comes once and each value can be read, and
`ofText?_eq_some_iff` says that these are the documents that are taken, and that
the layer they give has the value of an entry under the name of the entry and
nothing under any other.
-/

namespace GoldenFiles

/-- What the value of a setting is. -/
abbrev Key.Value : Key → Type
  | .fixturesDir | .outputDir | .program => Path
  | .programArgs => List String
  | .inputMarker | .outputMarker | .inputExtension | .expectedExtension => String
  | .jobs | .timeoutSecs => Nat
  | .filter => Option String
  | .stderr => StderrMode

/-- A value for each of some settings. -/
abbrev Assignment := (key : Key) → Option key.Value

/-- The value that settings have under a key. -/
def Settings.value (s : Settings) : (key : Key) → key.Value
  | .fixturesDir => s.fixturesDir
  | .outputDir => s.outputDir
  | .program => s.program
  | .programArgs => s.programArgs
  | .inputMarker => s.scheme.inputMarker
  | .outputMarker => s.scheme.outputMarker
  | .inputExtension => s.scheme.inputExtension
  | .expectedExtension => s.scheme.expectedExtension
  | .jobs => s.jobs
  | .timeoutSecs => s.timeoutSecs
  | .filter => s.filter
  | .stderr => s.stderr

theorem Settings.ext_value {s t : Settings} (h : ∀ key, s.value key = t.value key) : s = t := by
  obtain ⟨_, _, _, _, ⟨_, _, _, _⟩, _, _, _, _⟩ := s
  obtain ⟨_, _, _, _, ⟨_, _, _, _⟩, _, _, _, _⟩ := t
  obtain rfl := h .fixturesDir
  obtain rfl := h .outputDir
  obtain rfl := h .program
  obtain rfl := h .programArgs
  obtain rfl := h .inputMarker
  obtain rfl := h .outputMarker
  obtain rfl := h .inputExtension
  obtain rfl := h .expectedExtension
  obtain rfl := h .jobs
  obtain rfl := h .timeoutSecs
  obtain rfl := h .filter
  obtain rfl := h .stderr
  rfl

namespace Layer

/-- The value that a layer gives to a setting. -/
def value? (layer : Layer) : Assignment
  | .fixturesDir => layer.fixturesDir
  | .outputDir => layer.outputDir
  | .program => layer.program
  | .programArgs => layer.programArgs
  | .inputMarker => layer.inputMarker
  | .outputMarker => layer.outputMarker
  | .inputExtension => layer.inputExtension
  | .expectedExtension => layer.expectedExtension
  | .jobs => layer.jobs
  | .timeoutSecs => layer.timeoutSecs
  | .filter => layer.filter
  | .stderr => layer.stderr

/-- The layer with a value for a setting. -/
def put (layer : Layer) : (key : Key) → key.Value → Layer
  | .fixturesDir, v => { layer with fixturesDir := some v }
  | .outputDir, v => { layer with outputDir := some v }
  | .program, v => { layer with program := some v }
  | .programArgs, v => { layer with programArgs := some v }
  | .inputMarker, v => { layer with inputMarker := some v }
  | .outputMarker, v => { layer with outputMarker := some v }
  | .inputExtension, v => { layer with inputExtension := some v }
  | .expectedExtension, v => { layer with expectedExtension := some v }
  | .jobs, v => { layer with jobs := some v }
  | .timeoutSecs, v => { layer with timeoutSecs := some v }
  | .filter, v => { layer with filter := some v }
  | .stderr, v => { layer with stderr := some v }

/-- The layer that makes an assignment. -/
def ofAssignment (values : Assignment) : Layer where
  fixturesDir := values .fixturesDir
  outputDir := values .outputDir
  program := values .program
  programArgs := values .programArgs
  inputMarker := values .inputMarker
  outputMarker := values .outputMarker
  inputExtension := values .inputExtension
  expectedExtension := values .expectedExtension
  jobs := values .jobs
  timeoutSecs := values .timeoutSecs
  filter := values .filter
  stderr := values .stderr

variable {layer after : Layer} {key other : Key}

theorem value?_ofAssignment (values : Assignment) : (ofAssignment values).value? = values := by
  funext key
  cases key <;> rfl

theorem ext_value? (h : layer.value? = after.value?) : layer = after := by
  have hself : ∀ l : Layer, ofAssignment l.value? = l := fun _ => rfl
  rw [← hself layer, h, hself]

theorem value?_empty : ({} : Layer).value? = fun _ => none := by
  funext key
  cases key <;> rfl

theorem gives_eq (layer : Layer) (key : Key) : layer.gives key = (layer.value? key).isSome := by
  cases key <;> rfl

theorem value?_put_self (layer : Layer) (key : Key) (v : key.Value) :
    (layer.put key v).value? key = some v := by
  cases key <;> rfl

theorem value?_put_of_ne (layer : Layer) (v : key.Value) (h : other ≠ key) :
    (layer.put key v).value? other = layer.value? other := by
  cases key <;> cases other <;> first | rfl | exact absurd rfl h

/-- A layer counts where it gives a value, and nowhere else. -/
theorem value_over (layer : Layer) (s : Settings) (key : Key) :
    (layer.over s).value key = (layer.value? key).getD (s.value key) := by
  cases key <;> rfl

end Layer

/-! ## Documents -/

section Documents

variable {find : Yaml.Node → Option Yaml.Node}

/-- The setting that a node names. -/
def Key.ofNode? (find : Yaml.Node → Option Yaml.Node) (name : Yaml.Node) : Option Key :=
  ((find name).bind (·.text?)).bind Key.ofWord?

/-- The value of a setting that a node stands for. -/
def Key.read? (find : Yaml.Node → Option Yaml.Node) : (key : Key) → Yaml.Node → Option key.Value
  | .fixturesDir, node | .outputDir, node | .program, node =>
      ((find node).bind (·.text?)).map Path.ofString
  | .programArgs, node =>
      ((find node).bind (·.items?)).bind fun items =>
        items.mapM fun item => (find item).bind (·.text?)
  | .inputMarker, node | .outputMarker, node | .inputExtension, node
  | .expectedExtension, node => (find node).bind (·.text?)
  | .jobs, node | .timeoutSecs, node => (find node).bind (·.natural?)
  | .filter, node => (find node).bind (·.optionalText?)
  | .stderr, node => ((find node).bind (·.word?)).bind StderrMode.ofWord?

/-- What entries of a document assign: the value under the name of a setting. -/
def assigned (find : Yaml.Node → Option Yaml.Node) (entries : List (Yaml.Node × Yaml.Node)) :
    Assignment := fun key =>
  (entries.find? fun entry => Key.ofNode? find entry.1 = some key).bind fun entry =>
    key.read? find entry.2

/-- Entries that settings can be taken from. -/
structure Acceptable (find : Yaml.Node → Option Yaml.Node)
    (entries : List (Yaml.Node × Yaml.Node)) : Prop where
  known : ∀ entry ∈ entries, ∃ key, Key.ofNode? find entry.1 = some key
  once : entries.Pairwise fun a b => Key.ofNode? find a.1 ≠ Key.ofNode? find b.1
  readable : ∀ entry ∈ entries, ∀ key, Key.ofNode? find entry.1 = some key →
    ∃ v, key.read? find entry.2 = some v

theorem Layer.set?_eq (layer : Layer) (key : Key) (node : Yaml.Node) :
    layer.set? find key node = (key.read? find node).map (layer.put key) := by
  cases key with
  | fixturesDir | outputDir | program =>
      rw [Key.read?, Option.map_map]
      rfl
  | programArgs =>
      rw [Key.read?, Option.map_bind]
      rfl
  | inputMarker | outputMarker | inputExtension | expectedExtension | jobs | timeoutSecs | filter
  | stderr => rfl

theorem assigned_cons_self {name node : Yaml.Node} {key : Key}
    (h : Key.ofNode? find name = some key) (entries : List (Yaml.Node × Yaml.Node)) :
    assigned find ((name, node) :: entries) key = key.read? find node := by
  rw [assigned, List.find?_cons_of_pos (by simpa using h)]
  rfl

theorem assigned_cons_of_ne {name node : Yaml.Node} {key : Key}
    (h : Key.ofNode? find name ≠ some key) (entries : List (Yaml.Node × Yaml.Node)) :
    assigned find ((name, node) :: entries) key = assigned find entries key := by
  rw [assigned, List.find?_cons_of_neg (by simpa using h)]
  rfl

theorem Acceptable.nil : Acceptable find [] := by
  refine ⟨?_, List.Pairwise.nil, ?_⟩
  · intro entry h
    cases h
  · intro entry h
    cases h

theorem acceptable_cons_iff {name node : Yaml.Node} {entries : List (Yaml.Node × Yaml.Node)} :
    Acceptable find ((name, node) :: entries) ↔
      (∃ key v, Key.ofNode? find name = some key ∧ key.read? find node = some v ∧
        ∀ entry ∈ entries, Key.ofNode? find entry.1 ≠ some key) ∧
      Acceptable find entries := by
  constructor
  · rintro ⟨known, once, readable⟩
    obtain ⟨⟨key, hkey⟩, hknown⟩ := List.forall_mem_cons.mp known
    obtain ⟨hread, hreadable⟩ := List.forall_mem_cons.mp readable
    obtain ⟨hother, honce⟩ := List.pairwise_cons.mp once
    obtain ⟨v, hv⟩ := hread key hkey
    exact ⟨⟨key, v, hkey, hv, fun entry hmem => hkey ▸ (hother entry hmem).symm⟩,
      hknown, honce, hreadable⟩
  · rintro ⟨⟨key, v, hkey, hv, hother⟩, known, once, readable⟩
    refine ⟨List.forall_mem_cons.mpr ⟨⟨key, hkey⟩, known⟩,
      List.pairwise_cons.mpr ⟨fun entry hmem => hkey ▸ (hother entry hmem).symm, once⟩,
      List.forall_mem_cons.mpr ⟨fun other hother => ?_, readable⟩⟩
    obtain rfl : key = other := Option.some.inj (hkey.symm.trans hother)
    exact ⟨v, hv⟩

namespace Layer

theorem setAll?_cons_eq_some_iff {layer after : Layer} {name node : Yaml.Node}
    {entries : List (Yaml.Node × Yaml.Node)} :
    layer.setAll? find ((name, node) :: entries) = some after ↔
      ∃ key v, Key.ofNode? find name = some key ∧ layer.value? key = none ∧
        key.read? find node = some v ∧ (layer.put key v).setAll? find entries = some after := by
  rw [setAll?, ← Key.ofNode?]
  cases hkey : Key.ofNode? find name with
  | none => simp
  | some key =>
      cases hv : key.read? find node with
      | none =>
          simp only [gives_eq, set?_eq, hv, Option.map_none]
          split <;> simp [hv]
      | some v =>
          simp only [gives_eq, set?_eq, hv, Option.map_some]
          cases hgiven : layer.value? key with
          | none => simp [hgiven, hv]
          | some earlier => simp [hgiven]

/-- The first entry counts for its key, whether it is put into the layer or left
in front of the others. -/
theorem value?_put_or_assigned {layer : Layer} {name node : Yaml.Node} {key : Key}
    {v : key.Value} (hkey : Key.ofNode? find name = some key) (hfree : layer.value? key = none)
    (hv : key.read? find node = some v) (entries : List (Yaml.Node × Yaml.Node)) (other : Key) :
    ((layer.put key v).value? other).or (assigned find entries other) =
      (layer.value? other).or (assigned find ((name, node) :: entries) other) := by
  by_cases hne : other = key
  · subst hne
    rw [value?_put_self, hfree, assigned_cons_self hkey, hv]
    rfl
  · rw [value?_put_of_ne layer v hne, assigned_cons_of_ne]
    rw [hkey]
    exact fun heq => hne (Option.some.inj heq).symm

/-- Entries are taken if they are acceptable and name nothing that has a value. -/
theorem setAll?_eq_some_iff {layer after : Layer} {entries : List (Yaml.Node × Yaml.Node)} :
    layer.setAll? find entries = some after ↔ Acceptable find entries ∧
      (∀ entry ∈ entries, ∀ key, Key.ofNode? find entry.1 = some key → layer.value? key = none) ∧
      ∀ key, after.value? key = (layer.value? key).or (assigned find entries key) := by
  induction entries generalizing layer with
  | nil =>
      rw [setAll?, Option.some_inj]
      constructor
      · rintro rfl
        refine ⟨.nil, fun entry h => ?_, fun key => Option.or_none.symm⟩
        cases h
      · rintro ⟨-, -, values⟩
        exact ext_value? (funext fun key => ((values key).trans Option.or_none).symm)
  | cons entry entries ih =>
      obtain ⟨name, node⟩ := entry
      rw [setAll?_cons_eq_some_iff, acceptable_cons_iff, List.forall_mem_cons]
      constructor
      · rintro ⟨key, v, hkey, hfree, hv, hrest⟩
        obtain ⟨acceptable, free, values⟩ := ih.mp hrest
        have hother : ∀ entry ∈ entries, Key.ofNode? find entry.1 ≠ some key := by
          intro entry hmem hsame
          have hnone := free entry hmem key hsame
          rw [value?_put_self] at hnone
          cases hnone
        refine ⟨⟨⟨key, v, hkey, hv, hother⟩, acceptable⟩, ⟨?_, ?_⟩, ?_⟩
        · intro other hname
          obtain rfl : key = other := Option.some.inj (hkey.symm.trans hname)
          exact hfree
        · intro entry hmem other hname
          have hne : other ≠ key := fun heq => hother entry hmem (heq ▸ hname)
          rw [← value?_put_of_ne layer v hne]
          exact free entry hmem other hname
        · intro other
          rw [values other, value?_put_or_assigned hkey hfree hv]
      · rintro ⟨⟨⟨key, v, hkey, hv, hother⟩, acceptable⟩, ⟨hfirst, free⟩, values⟩
        have hfree := hfirst key hkey
        refine ⟨key, v, hkey, hfree, hv, ih.mpr ⟨acceptable, ?_, ?_⟩⟩
        · intro entry hmem other hname
          have hne : other ≠ key := fun heq => hother entry hmem (heq ▸ hname)
          rw [value?_put_of_ne layer v hne]
          exact free entry hmem other hname
        · intro other
          rw [values other, value?_put_or_assigned hkey hfree hv]

end Layer

end Documents

/-- What the text of a document assigns. A text without a document assigns nothing. -/
inductive Assigns (text : List Char) : Assignment → Prop where
  | nothing (h : Yaml.read text = some none) : Assigns text fun _ => none
  | entries {root node : Yaml.Node} {entries : List (Yaml.Node × Yaml.Node)}
      (read : Yaml.read text = some (some root)) (target : root.target? root = some node)
      (mapping : node.entries? = some entries) (acceptable : Acceptable root.target? entries) :
      Assigns text (assigned root.target? entries)

namespace Layer

theorem setAll?_empty_eq_some_iff {find : Yaml.Node → Option Yaml.Node} {layer : Layer}
    {entries : List (Yaml.Node × Yaml.Node)} :
    ({} : Layer).setAll? find entries = some layer ↔
      Acceptable find entries ∧ layer.value? = assigned find entries := by
  rw [setAll?_eq_some_iff, value?_empty, funext_iff]
  constructor
  · rintro ⟨acceptable, -, values⟩
    exact ⟨acceptable, values⟩
  · rintro ⟨acceptable, values⟩
    exact ⟨acceptable, fun _ _ _ _ => rfl, values⟩

/-- A layer is read from a text just if the text assigns the values that it gives. -/
theorem ofText?_eq_some_iff (text : List Char) (layer : Layer) :
    ofText? text = some layer ↔ Assigns text layer.value? := by
  constructor
  · intro h
    unfold ofText? at h
    split at h
    · cases h
    · next hread =>
        obtain rfl := Option.some.inj h
        exact value?_empty ▸ .nothing hread
    · next root hread =>
        obtain ⟨entries, hentries, hset⟩ := Option.bind_eq_some_iff.mp h
        obtain ⟨node, target, mapping⟩ := Option.bind_eq_some_iff.mp hentries
        obtain ⟨acceptable, values⟩ := setAll?_empty_eq_some_iff.mp hset
        exact values ▸ .entries hread target mapping acceptable
  · intro h
    generalize hvalues : layer.value? = values at h
    cases h with
    | nothing hread =>
        rw [ofText?, hread]
        exact congrArg some (ext_value? (value?_empty.trans hvalues.symm))
    | @entries root node entries hread target mapping acceptable =>
        rw [ofText?, hread]
        refine Option.bind_eq_some_iff.mpr ⟨entries, ?_, ?_⟩
        · exact Option.bind_eq_some_iff.mpr ⟨node, target, mapping⟩
        · exact setAll?_empty_eq_some_iff.mpr ⟨acceptable, hvalues⟩

end Layer

end GoldenFiles
