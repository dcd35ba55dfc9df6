import GoldenFiles.Proofs.CommandLine.Layering
import GoldenFiles.Proofs.Yaml.Parsed

/-!
# Settings written line by line

A line for a setting is written from its value, so that there is nothing to read
before it can be said what a document should come to (`SettingLine`). Texts and
paths stand in quotes, a number and a mode stand as words, and a name may stand in
either way; no value that fits is left without a line (`exists_settingLine`).

That the order of the lines does not matter comes from the side of the
assignment, not from that of the reader. A setting asks for the entry under its
name, and if no name comes twice there is only one entry to be found, wherever
it stands; `Layer.Of` says this without an order, and `Layer.Of.unique` that nothing
else remains to be known of a layer. The reader comes in with one fact about
length, since a name of more than 1024 characters would not be taken for a key:
a character is written with ten at most, and names of settings are short.

Lines that are at fault may have any keys and any values, and also keys of that
length. Then the document is not read at all, which is the same in the end.
-/

namespace GoldenFiles

open Yaml (QuotedText Scalar)

/-! ## Values -/

/-- How a value of a setting is written. -/
def Key.Writes : (key : Key) → key.Value → Yaml.Value → Prop
  | .fixturesDir, v, w | .outputDir, v, w | .program, v, w =>
      ∃ q : QuotedText, w = .scalar (.quoted q) ∧ v = .ofString (.ofList q.text)
  | .programArgs, v, w =>
      ∃ items : List QuotedText, w = .list items ∧ v = items.map fun q => .ofList q.text
  | .inputMarker, v, w | .outputMarker, v, w | .inputExtension, v, w
  | .expectedExtension, v, w => ∃ q : QuotedText, w = .scalar (.quoted q) ∧ v = .ofList q.text
  | .jobs, v, w | .timeoutSecs, v, w =>
      v < 2 ^ 64 ∧ ∃ isWord, w = .scalar (.word (toString v).toList isWord)
  | .filter, some v, w => ∃ q : QuotedText, w = .scalar (.quoted q) ∧ v = .ofList q.text
  | .filter, none, w => ∃ isWord, w = .scalar (.word "null".toList isWord)
  | .stderr, v, w => ∃ isWord, w = .scalar (.word v.word.toList isWord)

/-- Whether a value can be written down: paths are texts, and numbers fit into 64 bits. -/
def Key.Writable : (key : Key) → key.Value → Prop
  | .fixturesDir, v | .outputDir, v | .program, v => ∃ text, v = .ofString text
  | .jobs, v | .timeoutSecs, v => v < 2 ^ 64
  | _, _ => True

theorem surjective_text : Function.Surjective fun q : QuotedText => String.ofList q.text := by
  intro text
  obtain ⟨content, quoted⟩ := Yaml.exists_quoted text.toList
  exact ⟨⟨text.toList, content, quoted⟩, String.ofList_toList⟩

theorem Key.exists_writes {key : Key} {v : key.Value} (h : key.Writable v) :
    ∃ w, key.Writes v w := by
  cases key with
  | fixturesDir | outputDir | program =>
      obtain ⟨text, rfl⟩ := h
      obtain ⟨q, rfl⟩ := surjective_text text
      exact ⟨_, q, rfl, rfl⟩
  | programArgs =>
      obtain ⟨items, hitems⟩ := List.map_surjective_iff.mpr surjective_text v
      exact ⟨_, items, rfl, hitems.symm⟩
  | inputMarker | outputMarker | inputExtension | expectedExtension =>
      obtain ⟨q, hq⟩ := surjective_text v
      exact ⟨_, q, rfl, hq.symm⟩
  | jobs | timeoutSecs => exact ⟨_, h, Yaml.isWord_toString v, rfl⟩
  | filter =>
      cases v with
      | none => exact ⟨_, by decide, rfl⟩
      | some text =>
          obtain ⟨q, hq⟩ := surjective_text text
          exact ⟨_, q, rfl, hq.symm⟩
  | stderr => exact ⟨_, by cases v <;> decide, rfl⟩

/-- A line that gives a value to a setting. -/
structure SettingLine where
  key : Key
  value : key.Value
  name : Scalar
  named : name.text = key.word.toList
  written : Yaml.Value
  writes : key.Writes value written

/-- There is a line for every value that can be written down. -/
theorem exists_settingLine {key : Key} {v : key.Value} (h : key.Writable v) :
    ∃ l : SettingLine, (⟨l.key, l.value⟩ : (key : Key) × key.Value) = ⟨key, v⟩ := by
  obtain ⟨w, writes⟩ := Key.exists_writes h
  have isWord : Yaml.IsWord key.word.toList := by cases key <;> decide
  exact ⟨⟨key, v, .word key.word.toList isWord, rfl, w, writes⟩, rfl⟩

def SettingLine.line (l : SettingLine) : Yaml.Line := ⟨l.name, l.written⟩

/-- A document of settings, one on each line. -/
def document (ls : List SettingLine) : List Char := Yaml.writtenLines (ls.map SettingLine.line)

/-- The file that a path names holds a text. -/
def FileSystem.HasText (fs : FileSystem) (path : Path) (text : List Char) : Prop :=
  path.access (fs.read path) = .ok (Utf8.encodeChars text)

/-! ## Entries -/

variable {root : Yaml.Node}

/-- A line names the setting whose name is the text of its key. -/
theorem ofNode?_entry (l : Yaml.Line) :
    Key.ofNode? root.target? l.entry.1 = Key.ofWord? (.ofList l.key.text) := by
  show ((root.target? l.key.node).bind _).bind _ = _
  rw [Yaml.target?_scalar, Option.bind_some, Yaml.text?_scalar, Option.bind_some]

theorem Key.ofWord?_word (key : Key) : Key.ofWord? key.word = some key := by
  cases key <;> rfl

theorem ofNode?_line (l : SettingLine) :
    Key.ofNode? root.target? l.line.entry.1 = some l.key := by
  rw [ofNode?_entry, SettingLine.line, l.named, String.ofList_toList, Key.ofWord?_word]

theorem texts_of_items (items : List QuotedText) :
    (items.map QuotedText.node).mapM (fun item => (root.target? item).bind (·.text?)) =
      some (items.map fun q => .ofList q.text) := by
  induction items with
  | nil => rfl
  | cons q items ih =>
      rw [List.map_cons, List.mapM_cons, ih]
      rfl

/-- What is written for a value is read as that value. -/
theorem read?_of_writes {key : Key} {v : key.Value} {w : Yaml.Value} (h : key.Writes v w) :
    key.read? root.target? w.node = some v := by
  cases key with
  | fixturesDir | outputDir | program =>
      obtain ⟨q, rfl, rfl⟩ := h
      rfl
  | programArgs =>
      obtain ⟨items, rfl, rfl⟩ := h
      exact texts_of_items items
  | inputMarker | outputMarker | inputExtension | expectedExtension =>
      obtain ⟨q, rfl, rfl⟩ := h
      rfl
  | jobs | timeoutSecs =>
      obtain ⟨small, isWord, rfl⟩ := h
      rw [Key.read?, Yaml.Value.node, Yaml.target?_scalar, Option.bind_some, Yaml.natural?_word,
        Yaml.natural?_toString small]
  | filter =>
      cases v with
      | none =>
          obtain ⟨isWord, rfl⟩ := h
          rfl
      | some v =>
          obtain ⟨q, rfl, rfl⟩ := h
          rfl
  | stderr =>
      obtain ⟨isWord, rfl⟩ := h
      cases v <;> rfl

/-! ## Names -/

theorem length_word_le (key : Key) : key.word.toList.length ≤ 18 := by
  cases key <;> decide

/-- A character takes ten characters at most. -/
theorem length_content_le {text content : List Char} (h : Yaml.Quoted text content) :
    content.length ≤ 10 * text.length := by
  induction h with
  | nil => exact Nat.zero_le _
  | raw _ _ _ _ ih | letter _ _ ih =>
      simp only [List.length_cons]
      omega
  | number marked _ _ _ ih =>
      have hdigits : ∀ pair ∈ Yaml.numberMarks, pair.2 ≤ 8 := by decide
      have hlength := hdigits _ marked
      simp only [List.length_cons, List.length_append]
      omega

/-- The name of a setting is short enough for a key. -/
theorem length_name_le (l : SettingLine) : l.name.written.length ≤ 1024 := by
  have hword := length_word_le l.key
  rw [← l.named] at hword
  cases hname : l.name with
  | word letters isWord =>
      rw [hname] at hword
      exact hword.trans (by omega)
  | quoted q =>
      rw [hname] at hword
      have hcontent := length_content_le q.quoted
      simp only [Scalar.text] at hword
      simp only [Scalar.written, QuotedText.written, List.length_cons, List.length_append,
        List.length_nil]
      omega

/-! ## Documents -/

variable {ls : List SettingLine}

def entriesOf (ls : List SettingLine) : List (Yaml.Node × Yaml.Node) := ls.map (·.line.entry)

theorem ofNode?_ne_of_not_mem {key : Key} (h : key ∉ ls.map SettingLine.key) :
    ∀ entry ∈ entriesOf ls, Key.ofNode? root.target? entry.1 ≠ some key := by
  intro entry hmem
  obtain ⟨l, hl, rfl⟩ := List.mem_map.mp hmem
  rw [ofNode?_line, Ne, Option.some_inj]
  rintro rfl
  exact h (List.mem_map_of_mem hl)

theorem acceptable_lines (once : (ls.map SettingLine.key).Nodup) :
    Acceptable root.target? (entriesOf ls) := by
  induction ls with
  | nil => exact .nil
  | cons l ls ih =>
      obtain ⟨hnew, once⟩ := List.nodup_cons.mp once
      have hread : l.key.read? root.target? l.line.entry.2 = some l.value :=
        read?_of_writes l.writes
      exact acceptable_cons_iff.mpr
        ⟨⟨l.key, l.value, ofNode?_line l, hread, ofNode?_ne_of_not_mem hnew⟩, ih once⟩

theorem assigned_of_mem (once : (ls.map SettingLine.key).Nodup) {l : SettingLine} (h : l ∈ ls) :
    assigned root.target? (entriesOf ls) l.key = some l.value := by
  induction ls with
  | nil => cases h
  | cons first ls ih =>
      obtain ⟨hnew, once⟩ := List.nodup_cons.mp once
      show assigned _ (first.line.entry :: entriesOf ls) _ = _
      obtain rfl | h := List.mem_cons.mp h
      · rw [assigned_cons_self (ofNode?_line l)]
        exact read?_of_writes l.writes
      · have hne : Key.ofNode? root.target? first.line.entry.1 ≠ some l.key := by
          rw [ofNode?_line, Ne, Option.some_inj]
          exact fun heq => hnew (heq ▸ List.mem_map_of_mem h)
        rw [assigned_cons_of_ne hne, ih once h]

theorem assigned_of_not_mem {key : Key} (h : key ∉ ls.map SettingLine.key) :
    assigned root.target? (entriesOf ls) key = none := by
  have hnone : (entriesOf ls).find? (fun entry =>
      Key.ofNode? root.target? entry.1 = some key) = none := by
    rw [List.find?_eq_none]
    intro entry hmem
    simpa using ofNode?_ne_of_not_mem h entry hmem
  rw [assigned, hnone, Option.bind_none]

theorem read_document (hne : ls ≠ []) :
    Yaml.read (document ls) = some (some (.mapping {} (entriesOf ls))) := by
  have hshort : ∀ line ∈ ls.map SettingLine.line, line.key.written.length ≤ 1024 := by
    intro line hline
    obtain ⟨l, -, rfl⟩ := List.mem_map.mp hline
    exact length_name_le l
  rw [document, Yaml.read_writtenLines (mt List.map_eq_nil_iff.mp hne), if_pos hshort,
    List.map_map]
  rfl

/-- A document assigns what its lines say; without lines it assigns nothing. -/
theorem assigns_document (once : (ls.map SettingLine.key).Nodup) :
    ∃ root : Yaml.Node, Assigns (document ls) (assigned root.target? (entriesOf ls)) := by
  refine ⟨.mapping {} (entriesOf ls), ?_⟩
  by_cases hne : ls = []
  · subst hne
    exact .nothing rfl
  · exact .entries (read_document hne) rfl rfl (acceptable_lines once)

/-- The layer with the values of lines and no other. -/
structure Layer.Of (layer : Layer) (ls : List SettingLine) : Prop where
  given : ∀ l ∈ ls, layer.value? l.key = some l.value
  other : ∀ key ∉ ls.map SettingLine.key, layer.value? key = none

theorem Layer.Of.unique {layer after : Layer} {ls other : List SettingLine} (h : layer.Of ls)
    (h' : after.Of other) (perm : other.Perm ls) : after = layer := by
  refine ext_value? (funext fun key => ?_)
  by_cases hkey : key ∈ ls.map SettingLine.key
  · obtain ⟨l, hl, rfl⟩ := List.mem_map.mp hkey
    rw [h.given l hl, h'.given l (perm.mem_iff.mpr hl)]
  · rw [h.other key hkey, h'.other key fun hmem => hkey ((perm.map _).mem_iff.mp hmem)]

theorem layer_of_document (once : (ls.map SettingLine.key).Nodup) :
    ∃ layer, Layer.ofText? (document ls) = some layer ∧ layer.Of ls := by
  obtain ⟨root, hassigns⟩ := assigns_document once
  have hvalue := Layer.value?_ofAssignment (assigned root.target? (entriesOf ls))
  refine ⟨.ofAssignment (assigned root.target? (entriesOf ls)), ?_, ?_, ?_⟩
  · rw [Layer.ofText?_eq_some_iff, hvalue]
    exact hassigns
  · intro l hl
    rw [hvalue, assigned_of_mem once hl]
  · intro key hkey
    rw [hvalue, assigned_of_not_mem hkey]

/-! ## Other lines -/

variable {lines : List Yaml.Line}

/-- A key is not known or comes twice. -/
def Faulty (lines : List Yaml.Line) : Prop :=
  (∃ l ∈ lines, Key.ofWord? (.ofList l.key.text) = none) ∨ ¬(lines.map (·.key.text)).Nodup

theorem Faulty.not_acceptable (h : Faulty lines) :
    ¬Acceptable root.target? (lines.map Yaml.Line.entry) := by
  rintro ⟨known, once, -⟩
  obtain ⟨l, hl, hunknown⟩ | htwice := h
  · obtain ⟨key, hkey⟩ := known _ (List.mem_map_of_mem hl)
    rw [ofNode?_entry, hunknown] at hkey
    cases hkey
  · refine htwice (List.pairwise_map.mpr ((List.pairwise_map.mp once).imp ?_))
    intro a b hne heq
    rw [ofNode?_entry, ofNode?_entry, heq] at hne
    exact hne rfl

/-- No layer is read from faulty lines. A key that is too long is not even a key. -/
theorem Faulty.ofText?_eq_none (h : Faulty lines) :
    Layer.ofText? (Yaml.writtenLines lines) = none := by
  have hlines : lines ≠ [] := by
    rintro rfl
    simp [Faulty] at h
  have hnone : Layer.ofNode? (.mapping {} (lines.map Yaml.Line.entry)) = none := by
    refine Option.eq_none_iff_forall_ne_some.mpr fun layer hlayer => ?_
    exact h.not_acceptable (Layer.setAll?_empty_eq_some_iff.mp hlayer).1
  rw [Layer.ofText?, Yaml.read_writtenLines hlines]
  by_cases hshort : ∀ l ∈ lines, l.key.written.length ≤ 1024
  · rw [if_pos hshort]
    exact hnone
  · rw [if_neg hshort]

/-- Lines that give values to different settings come to the defaults with those values
in place of their own, in whatever order the lines stand. Lines with a key that is not
known or that comes twice come to nothing. -/
theorem settings_in_any_order :
    (∀ ls : List SettingLine, (ls.map SettingLine.key).Nodup →
      ∃ s : Settings, (∀ l ∈ ls, s.value l.key = l.value) ∧
        (∀ key ∉ ls.map SettingLine.key, s.value key = ({} : Settings).value key) ∧
        ∀ other : List SettingLine, other.Perm ls →
          ∀ fs path, FileSystem.HasText fs path (document other) →
            (fs.layer path).map (·.over {}) = .ok s) ∧
    (∀ lines : List Yaml.Line, Faulty lines → ∀ fs path, FileSystem.HasText fs path (Yaml.writtenLines lines) →
        fs.layer path = .error (.configFile path .unacceptable)) := by
  constructor
  · intro ls once
    obtain ⟨layer, -, hlayer⟩ := layer_of_document once
    refine ⟨layer.over {}, ?_, ?_, ?_⟩
    · intro l hl
      rw [Layer.value_over, hlayer.given l hl, Option.getD_some]
    · intro key hkey
      rw [Layer.value_over, hlayer.other key hkey, Option.getD_none]
    · intro other perm fs path holds
      obtain ⟨after, hread, hafter⟩ := layer_of_document ((perm.map _).nodup_iff.mpr once)
      rw [FileSystem.layer_of_text holds, hread, hlayer.unique hafter perm]
      rfl
  · intro lines h fs path holds
    rw [FileSystem.layer_of_text holds, h.ofText?_eq_none]
    rfl

theorem quoted_example : Yaml.Quoted ['/', 'b'] ['\\', 'x', '2', 'f', 'b'] := by
  have hspelled : List.Forall₂ Yaml.IsHexDigit ['2', 'f'] [2, 15] := by decide
  exact .number (by decide) hspelled rfl (Yaml.quoted_self (by decide))

/-- A file system whose file `c` is a text. -/
def exampleText (text : String) : FileSystem :=
  FileSystem.empty.put [Utf8.encode "c"] (.file (Utf8.encodeChars text.toList) false)

theorem hasText_exampleText (text : String) :
    (exampleText text).HasText (.ofString "c") text.toList := rfl

/-- A program whose path has its slash by number. -/
def exampleProgram : SettingLine where
  key := .program
  value := .ofString "/b"
  name := .word "program".toList (by decide)
  named := rfl
  written := .scalar (.quoted ⟨_, _, quoted_example⟩)
  writes := ⟨_, rfl, rfl⟩

def exampleJobs : SettingLine where
  key := .jobs
  value := 3
  name := .word "jobs".toList (by decide)
  named := rfl
  written := .scalar (.word ['3'] (by decide))
  writes := ⟨by decide, by decide, rfl⟩

/-- Three jobs under a name in quotes. -/
def exampleQuoted : Yaml.Line where
  key := .quoted ⟨"jobs".toList, _, Yaml.quoted_self (by decide)⟩
  value := .scalar (.word ['3'] (by decide))

def exampleUnknown : Yaml.Line where
  key := .word "job".toList (by decide)
  value := .list []

/-- A program is given before the jobs or after them, and with a third line that is not
known or that gives the jobs again, under a name in quotes. -/
theorem settings_in_any_order_example :
    (∀ text ∈ ["jobs: 3\nprogram: \x22\\x2fb\x22\n", "program: \x22\\x2fb\x22\njobs: 3\n"],
      ((exampleText text).layer (.ofString "c")).map (·.over {}) =
        .ok { program := .ofString "/b", jobs := 3 }) ∧
    ∀ text ∈ ["jobs: 3\nprogram: \x22\\x2fb\x22\njob: []\n",
        "\x22jobs\x22: 3\nprogram: \x22\\x2fb\x22\njobs: 3\n"],
      (exampleText text).layer (.ofString "c") =
        .error (.configFile (.ofString "c") .unacceptable) := by
  have hswap : [exampleProgram, exampleJobs].Perm [exampleJobs, exampleProgram] := .swap ..
  obtain ⟨s, given, default, hread⟩ :=
    settings_in_any_order.1 [exampleJobs, exampleProgram] (by decide)
  have hs : s = { program := .ofString "/b", jobs := 3 } := by
    refine Settings.ext_value fun key => ?_
    cases key with
    | program => exact given exampleProgram (by simp)
    | jobs => exact given exampleJobs (by simp)
    | _ => exact default _ (by decide)
  subst hs
  refine ⟨List.forall_mem_cons.mpr ⟨?_, List.forall_mem_singleton.mpr ?_⟩,
    List.forall_mem_cons.mpr ⟨?_, List.forall_mem_singleton.mpr ?_⟩⟩
  · exact hread _ (.refl _) _ _ (hasText_exampleText _)
  · exact hread _ hswap _ _ (hasText_exampleText _)
  · exact settings_in_any_order.2 [exampleJobs.line, exampleProgram.line, exampleUnknown]
      (.inl (by decide)) _ _ (hasText_exampleText _)
  · exact settings_in_any_order.2 [exampleQuoted, exampleProgram.line, exampleJobs.line]
      (.inr (by decide)) _ _ (hasText_exampleText _)

end GoldenFiles
