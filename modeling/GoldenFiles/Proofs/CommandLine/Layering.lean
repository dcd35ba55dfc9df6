import GoldenFiles.CommandLine.Arguments
import GoldenFiles.Proofs.Config.Assignment
import GoldenFiles.Proofs.Path.Text

/-!
# Where settings come from

A command line is read one occurrence after the other, and each of them touches
the value of at most one setting: `Gives` lists what one can do to a key, and
from it follows, by induction on the occurrences, that a setting has the value
that was said for it, once, while the arguments of the program are all that were
said for them, in order.

With the document read key by key as well, `settings_are_layered` tells for
every key which of the three layers its value is from, and exactly when a
command line ends in an error instead: if the document cannot be used, whatever
else is said, or if what all layers come to together is refused. What a single
layer says is never judged.
-/

namespace GoldenFiles

/-- The settings that flags make over a file over the defaults. -/
structure Layered (flags file : Assignment) (s : Settings) : Prop where
  from_flags : ∀ key v, flags key = some v → s.value key = v
  from_file : ∀ key v, flags key = none → file key = some v → s.value key = v
  from_defaults : ∀ key, flags key = none → file key = none →
    s.value key = ({} : Settings).value key

theorem layered_iff (flags file : Layer) (s : Settings) :
    Layered flags.value? file.value? s ↔ s = flags.over (file.over {}) := by
  constructor
  · intro h
    refine Settings.ext_value fun key => ?_
    rw [Layer.value_over, Layer.value_over]
    cases hflags : flags.value? key with
    | some v => exact h.from_flags key v hflags
    | none =>
        cases hfile : file.value? key with
        | some v => exact h.from_file key v hflags hfile
        | none => exact h.from_defaults key hflags hfile
  · rintro rfl
    refine ⟨fun key v h => ?_, fun key v h h' => ?_, fun key h h' => ?_⟩
    · rw [Layer.value_over, h, Option.getD_some]
    · rw [Layer.value_over, h, Option.getD_none, Layer.value_over, h', Option.getD_some]
    · rw [Layer.value_over, h, Option.getD_none, Layer.value_over, h', Option.getD_none]

/-! ## Files -/

/-- Why no settings can be taken from the file that a path names. -/
inductive FileSystem.Unusable (fs : FileSystem) (path : Path) : RunError → Prop where
  | unreadable {e : IoError} (h : path.access (fs.read path) = .error e) :
      Unusable fs path (.configFile path (.unreadable e))
  | noText {content : Bytes} (h : path.access (fs.read path) = .ok content)
      (broken : ¬Utf8.IsText content) : Unusable fs path (.configFile path (.unreadable notText))
  | unacceptable {text : List Char}
      (h : path.access (fs.read path) = .ok (Utf8.encodeChars text))
      (none : ∀ values, ¬Assigns text values) :
      Unusable fs path (.configFile path .unacceptable)

/-- The values that a file gives. -/
def FileSystem.Documents (fs : FileSystem) (path : Path) (values : Assignment) : Prop :=
  ∃ text, path.access (fs.read path) = .ok (Utf8.encodeChars text) ∧ Assigns text values

namespace FileSystem

variable {fs : FileSystem} {path : Path}

theorem layer_of_text {text : List Char}
    (h : path.access (fs.read path) = .ok (Utf8.encodeChars text)) :
    fs.layer path = (Layer.ofText? text).elim (.error (.configFile path .unacceptable)) .ok := by
  have hdecode := (Utf8.decodeChars?_eq_some_iff _ text).mpr rfl
  cases hlayer : Layer.ofText? text <;> simp only [layer, h, hdecode, hlayer, Option.elim]

theorem layer_of_noText {content : Bytes} (h : path.access (fs.read path) = .ok content)
    (broken : ¬Utf8.IsText content) :
    fs.layer path = .error (.configFile path (.unreadable notText)) := by
  rw [layer, h]
  cases hdecode : Utf8.decodeChars? content with
  | none => simp only [hdecode]
  | some text => exact absurd ⟨text, (Utf8.decodeChars?_eq_some_iff ..).mp hdecode⟩ broken

theorem ofText?_eq_none_iff {text : List Char} :
    Layer.ofText? text = none ↔ ∀ values, ¬Assigns text values := by
  constructor
  · intro h values hvalues
    rw [← Layer.value?_ofAssignment values, ← Layer.ofText?_eq_some_iff, h] at hvalues
    cases hvalues
  · intro h
    cases hlayer : Layer.ofText? text with
    | none => rfl
    | some layer => exact absurd ((Layer.ofText?_eq_some_iff ..).mp hlayer) (h _)

theorem layer_eq_ok_iff (layer : Layer) :
    fs.layer path = .ok layer ↔ fs.Documents path layer.value? := by
  constructor
  · intro h
    cases hread : path.access (fs.read path) with
    | error e =>
        rw [FileSystem.layer, hread] at h
        cases h
    | ok content =>
        by_cases htext : Utf8.IsText content
        · obtain ⟨text, rfl⟩ := htext
          rw [layer_of_text hread] at h
          cases hlayer : Layer.ofText? text with
          | none =>
              rw [hlayer] at h
              cases h
          | some found =>
              rw [hlayer] at h
              obtain rfl := Except.ok.inj h
              exact ⟨text, hread, (Layer.ofText?_eq_some_iff ..).mp hlayer⟩
        · rw [layer_of_noText hread htext] at h
          cases h
  · rintro ⟨text, hread, hvalues⟩
    rw [layer_of_text hread, (Layer.ofText?_eq_some_iff ..).mpr hvalues, Option.elim]

theorem layer_eq_error_iff (e : RunError) : fs.layer path = .error e ↔ fs.Unusable path e := by
  constructor
  · intro h
    cases hread : path.access (fs.read path) with
    | error e =>
        rw [FileSystem.layer, hread] at h
        exact Except.error.inj h ▸ .unreadable hread
    | ok content =>
        by_cases htext : Utf8.IsText content
        · obtain ⟨text, rfl⟩ := htext
          rw [layer_of_text hread] at h
          cases hlayer : Layer.ofText? text with
          | none =>
              rw [hlayer] at h
              exact Except.error.inj h ▸ .unacceptable hread (ofText?_eq_none_iff.mp hlayer)
          | some found =>
              rw [hlayer] at h
              cases h
        · rw [layer_of_noText hread htext] at h
          exact Except.error.inj h ▸ .noText hread htext
  · intro h
    cases h with
    | unreadable hread => rw [FileSystem.layer, hread]
    | noText hread broken => exact layer_of_noText hread broken
    | unacceptable hread hnone =>
        rw [layer_of_text hread, ofText?_eq_none_iff.mpr hnone, Option.elim]

end FileSystem

namespace CommandLine

/-! ## Occurrences -/

/-- The setting that a parameter gives a value to. -/
def Parameter.key? : Parameter → Option Key
  | .fixtures => some .fixturesDir
  | .output => some .outputDir
  | .program => some .program
  | .arg => some .programArgs
  | .inputMarker => some .inputMarker
  | .outputMarker => some .outputMarker
  | .inputExtension => some .inputExtension
  | .expectedExtension => some .expectedExtension
  | .jobs => some .jobs
  | .timeout => some .timeoutSecs
  | .filter => some .filter
  | .stderr => some .stderr
  | .format | .color | .config => none

/-- The word that an occurrence says for a setting. -/
def Occurrence.wordFor? (key : Key) : Occurrence → Option (List Char)
  | .attached p word | .separate p (some word) => if p.key? = some key then some word else none
  | .separate _ none | .switch _ => none

/-- The words that are said for a setting, in order. -/
def wordsFor (key : Key) (occurrences : List Occurrence) : List (List Char) :=
  occurrences.filterMap (·.wordFor? key)

end CommandLine

/-- The value of a setting that a word stands for. -/
def Key.parse? : (key : Key) → List Char → Option key.Value
  | .fixturesDir, word | .outputDir, word | .program, word =>
      if word = [] then none else some (.ofString (.ofList word))
  | .programArgs, word => some [.ofList word]
  | .inputMarker, word | .outputMarker, word | .inputExtension, word
  | .expectedExtension, word => some (.ofList word)
  | .jobs, word | .timeoutSecs, word => CommandLine.number? word
  | .filter, word => some (some (.ofList word))
  | .stderr, word => StderrMode.ofWord? (.ofList word)

/-- The value of a setting with one more value said for it. Arguments of the
program are added to those before them. -/
def Key.extend : (key : Key) → Option key.Value → key.Value → key.Value
  | .programArgs, earlier, args => earlier.getD [] ++ args
  | _, _, v => v

/-- The value that words say for a setting. -/
def Key.said? : (key : Key) → List (List Char) → Option key.Value
  | .programArgs, words => if words = [] then none else some (words.map .ofList)
  | key, words => words.head?.bind key.parse?

namespace CommandLine

namespace Arguments

variable {a after : Arguments} {key : Key}

/-- What one occurrence does to the value of a setting, by the word that it says
for it. -/
inductive Gives (a after : Arguments) (key : Key) : Option (List Char) → Prop where
  | nothing (h : after.layer.value? key = a.layer.value? key) : Gives a after key none
  | value {word : List Char} {v : key.Value}
      (once : key ≠ .programArgs → a.layer.value? key = none) (parsed : key.parse? word = some v)
      (h : after.layer.value? key = some (key.extend (a.layer.value? key) v)) :
      Gives a after key (some word)

theorem has_eq {p : Parameter} (hkey : p.key? = some key) (h : key ≠ .programArgs) :
    a.has p = (a.layer.value? key).isSome := by
  cases p <;> cases hkey <;> first | rfl | exact absurd rfl h

/-- A parameter gives a value to its own setting alone. -/
theorem layer_of_set {p : Parameter} {word : List Char} (hset : a.set p word = .ok after) :
    (p.key? = none ∧ after.layer = a.layer) ∨
      ∃ key v, p.key? = some key ∧ key.parse? word = some v ∧
        after.layer = a.layer.put key (key.extend (a.layer.value? key) v) := by
  unfold set at hset
  cases p with
  | fixtures | output | program =>
      simp only [] at hset
      split at hset
      · cases hset
      · next hne =>
          obtain rfl := Except.ok.inj hset
          exact .inr ⟨_, _, rfl, if_neg hne, rfl⟩
  | arg | inputMarker | outputMarker | inputExtension | expectedExtension | filter =>
      obtain rfl := Except.ok.inj hset
      exact .inr ⟨_, _, rfl, rfl, rfl⟩
  | jobs | timeout | stderr =>
      simp only [] at hset
      split at hset
      · next hparse =>
          obtain rfl := Except.ok.inj hset
          exact .inr ⟨_, _, rfl, hparse, rfl⟩
      · cases hset
  | format | color =>
      simp only [] at hset
      split at hset
      · obtain rfl := Except.ok.inj hset
        exact .inl ⟨rfl, rfl⟩
      · cases hset
  | config =>
      simp only [] at hset
      split at hset
      · cases hset
      · obtain rfl := Except.ok.inj hset
        exact .inl ⟨rfl, rfl⟩

theorem gives_of_give {p : Parameter} {word : List Char} (hgive : a.give p word = .ok after)
    (key : Key) : Gives a after key (if p.key? = some key then some word else none) := by
  unfold give at hgive
  split at hgive
  · cases hgive
  · next hnew =>
      obtain ⟨hkey, hlayer⟩ | ⟨other, v, hkey, hparse, hlayer⟩ := layer_of_set hgive
      · rw [hkey, if_neg (by simp)]
        exact .nothing (by rw [hlayer])
      · by_cases hsame : other = key
        · subst hsame
          rw [if_pos hkey]
          refine .value (fun hne => ?_) hparse (by rw [hlayer, Layer.value?_put_self])
          rw [has_eq hkey hne] at hnew
          exact Option.not_isSome_iff_eq_none.mp hnew
        · rw [hkey, if_neg fun heq => hsame (Option.some.inj heq)]
          exact .nothing (by rw [hlayer, Layer.value?_put_of_ne _ _ (Ne.symm hsame)])

theorem gives_of_add {o : Occurrence} (hadd : a.add o = .ok after) (key : Key) :
    Gives a after key (o.wordFor? key) := by
  cases o with
  | switch s =>
      refine .nothing ?_
      unfold add at hadd
      cases s with
      | diff =>
          simp only [] at hadd
          split at hadd
          · cases hadd
          · rw [← Except.ok.inj hadd]
      | verbose => rw [← Except.ok.inj hadd]
      | help | version => cases hadd
  | attached p word => exact gives_of_give hadd key
  | separate p word =>
      cases word with
      | none => cases hadd
      | some word => exact gives_of_give hadd key

variable {occurrences : List Occurrence}

/-- The first occurrence does its part and the others do theirs. -/
theorem gives_of_addAll {o : Occurrence} (hadd : a.addAll (o :: occurrences) = .ok after)
    (key : Key) : ∃ mid word, Gives a mid key word ∧ mid.addAll occurrences = .ok after ∧
      wordsFor key (o :: occurrences) = word.toList ++ wordsFor key occurrences := by
  rw [addAll] at hadd
  split at hadd
  · cases hadd
  · next mid hone =>
      refine ⟨mid, _, gives_of_add hone key, hadd, ?_⟩
      rw [wordsFor, List.filterMap_cons]
      cases o.wordFor? key <;> rfl

/-- A setting that can be given once has the value that is said for it. -/
theorem value?_of_addAll (hkey : key ≠ .programArgs) (hadd : a.addAll occurrences = .ok after) :
    after.layer.value? key =
      (a.layer.value? key).or ((wordsFor key occurrences).head?.bind key.parse?) := by
  have hextend : ∀ earlier v, key.extend earlier v = v := by
    intro earlier v
    cases key <;> first | rfl | exact absurd rfl hkey
  induction occurrences generalizing a with
  | nil =>
      obtain rfl := Except.ok.inj hadd
      exact Option.or_none.symm
  | cons o occurrences ih =>
      obtain ⟨mid, word, hgives, hrest, hwords⟩ := gives_of_addAll hadd key
      rw [hwords, ih hrest]
      cases hgives with
      | nothing h =>
          rw [h]
          rfl
      | value once parsed h =>
          rw [h, once hkey, hextend, Option.some_or, Option.none_or]
          exact parsed.symm

/-- The arguments of the program are all that are said, in order. -/
theorem programArgs_of_addAll (hadd : a.addAll occurrences = .ok after) :
    after.layer.programArgs =
      if wordsFor .programArgs occurrences = [] then a.layer.programArgs
      else some (a.layer.programArgs.getD [] ++
        (wordsFor .programArgs occurrences).map .ofList) := by
  induction occurrences generalizing a with
  | nil =>
      obtain rfl := Except.ok.inj hadd
      rfl
  | cons o occurrences ih =>
      obtain ⟨mid, word, hgives, hrest, hwords⟩ := gives_of_addAll hadd .programArgs
      rw [hwords, ih hrest]
      cases hgives with
      | nothing h =>
          rw [show mid.layer.programArgs = a.layer.programArgs from h]
          rfl
      | @value word v once parsed h =>
          obtain rfl : [String.ofList word] = v := Option.some.inj parsed
          have hargs : mid.layer.programArgs =
              some (a.layer.programArgs.getD [] ++ [String.ofList word]) := h
          rw [hargs, Option.toList_some, List.singleton_append, if_neg (List.cons_ne_nil word _)]
          split
          · next hnone => simp [hnone]
          · simp

theorem isSome_of_addAll (hadd : a.addAll occurrences = .ok after)
    (h : (a.layer.value? key).isSome ∨ wordsFor key occurrences ≠ []) :
    (after.layer.value? key).isSome := by
  induction occurrences generalizing a with
  | nil =>
      obtain rfl := Except.ok.inj hadd
      exact h.resolve_right fun hne => hne rfl
  | cons o occurrences ih =>
      obtain ⟨mid, word, hgives, hrest, hwords⟩ := gives_of_addAll hadd key
      apply ih hrest
      cases hgives with
      | nothing hsame =>
          rw [hsame]
          rw [hwords] at h
          exact h
      | value once parsed hvalue => exact .inl (by rw [hvalue]; rfl)

theorem said?_of_addAll (hadd : ({} : Arguments).addAll occurrences = .ok a) (key : Key) :
    a.layer.value? key = key.said? (wordsFor key occurrences) := by
  by_cases hkey : key = .programArgs
  · subst hkey
    exact programArgs_of_addAll hadd
  · rw [value?_of_addAll hkey hadd]
    cases key <;> first | rfl | exact absurd rfl hkey

end Arguments

/-- The occurrences of options in the words of a command line. -/
def occurrencesIn (words : List String) : List Occurrence :=
  (said none (words.map String.toList)).occurrences

namespace Arguments

variable {a : Arguments} {words : List String} {fs : FileSystem}

theorem addAll_of_ofWords (parsed : ofWords words = .ok a) :
    ({} : Arguments).addAll (occurrencesIn words) = .ok a := by
  unfold ofWords at parsed
  simp only [] at parsed
  split at parsed
  · cases parsed
  · next hadd =>
      split at parsed
      · cases parsed
      · next hnone =>
          obtain rfl := Except.ok.inj parsed
          rw [Said.judged, hnone, if_neg (by simp)] at hadd
          exact hadd

/-- A setting is given a value just if something is said for it. -/
theorem value?_eq_none_iff (parsed : ofWords words = .ok a) (key : Key) :
    a.layer.value? key = none ↔ wordsFor key (occurrencesIn words) = [] := by
  have hadd := addAll_of_ofWords parsed
  constructor
  · intro h
    by_contra hne
    have hsome : (a.layer.value? key).isSome := isSome_of_addAll hadd (.inr hne)
    rw [h] at hsome
    cases hsome
  · intro h
    rw [said?_of_addAll hadd, h]
    cases key <;> rfl

/-! ## Three layers -/

/-- The values that the file of a command line gives, if it names one. -/
inductive Loads (a : Arguments) (fs : FileSystem) : Assignment → Prop where
  | noFile (h : a.config = none) : Loads a fs fun _ => none
  | file {path : Path} {values : Assignment} (h : a.config = some path)
      (documents : fs.Documents path values) : Loads a fs values

theorem fileLayer_eq_ok_iff (layer : Layer) :
    a.fileLayer fs = .ok layer ↔ a.Loads fs layer.value? := by
  unfold fileLayer
  cases hconfig : a.config with
  | none =>
      simp only [Except.ok.injEq]
      constructor
      · rintro rfl
        exact Layer.value?_empty ▸ .noFile hconfig
      · intro h
        generalize hvalues : layer.value? = values at h
        cases h with
        | noFile => exact Layer.ext_value? (Layer.value?_empty.trans hvalues.symm)
        | file h => rw [hconfig] at h; cases h
  | some path =>
      simp only [FileSystem.layer_eq_ok_iff]
      constructor
      · exact .file hconfig
      · intro h
        generalize layer.value? = values at h ⊢
        cases h with
        | noFile h => rw [hconfig] at h; cases h
        | file h documents =>
            obtain rfl : path = _ := Option.some.inj (hconfig.symm.trans h)
            exact documents

theorem fileLayer_eq_error_iff (e : RunError) :
    a.fileLayer fs = .error e ↔ ∃ path, a.config = some path ∧ fs.Unusable path e := by
  unfold fileLayer
  cases a.config with
  | none => simp
  | some path => simp [FileSystem.layer_eq_error_iff]

theorem loads_iff (values : Assignment) :
    a.Loads fs values ↔ ∃ file, a.fileLayer fs = .ok file ∧ file.value? = values := by
  constructor
  · intro h
    refine ⟨.ofAssignment values, ?_, Layer.value?_ofAssignment values⟩
    rw [fileLayer_eq_ok_iff, Layer.value?_ofAssignment]
    exact h
  · rintro ⟨file, h, rfl⟩
    exact (fileLayer_eq_ok_iff file).mp h

theorem settings_eq_ok_iff (s : Settings) : a.settings fs = .ok s ↔
    ∃ file, a.fileLayer fs = .ok file ∧ s = a.layer.over (file.over {}) ∧
      s.validate fs = .ok () := by
  unfold settings
  cases a.fileLayer fs with
  | error e => simp
  | ok file =>
      simp only []
      constructor
      · intro h
        split at h
        · cases h
        · next hvalid =>
            obtain rfl := Except.ok.inj h
            exact ⟨file, rfl, rfl, hvalid⟩
      · rintro ⟨_, hfile, rfl, hvalid⟩
        obtain rfl := Except.ok.inj hfile
        rw [hvalid]

theorem settings_eq_error_iff (e : RunError) : a.settings fs = .error e ↔
    a.fileLayer fs = .error e ∨ ∃ file, a.fileLayer fs = .ok file ∧
      (a.layer.over (file.over {})).validate fs = .error e := by
  unfold settings
  cases a.fileLayer fs with
  | error e' => simp
  | ok file =>
      simp only [reduceCtorEq, false_or, Except.ok.injEq, exists_eq_left']
      split
      · next hvalid => simp only [hvalid, Except.error.injEq]
      · next hvalid => simp only [hvalid, reduceCtorEq]

/-- Arguments make settings of three layers, the first of which is what the words
of a command line say. They end in an error just if the file cannot be used,
whatever is said beside it, or if the settings of all layers together are
refused. -/
theorem settings_are_layered (a : Arguments) (fs : FileSystem) :
    (∀ s, a.settings fs = .ok s ↔
      ∃ file, a.Loads fs file ∧ Layered a.layer.value? file s ∧ s.validate fs = .ok ()) ∧
    (∀ e, a.settings fs = .error e ↔
      (∃ path, a.config = some path ∧ fs.Unusable path e) ∨
      ∃ file s, a.Loads fs file ∧ Layered a.layer.value? file s ∧ s.validate fs = .error e) ∧
    ∀ words, ofWords words = .ok a → ∀ key,
      a.layer.value? key = key.said? (wordsFor key (occurrencesIn words)) ∧
      (a.layer.value? key = none ↔ wordsFor key (occurrencesIn words) = []) := by
  refine ⟨fun s => ?_, fun e => ?_, fun words parsed key => ?_⟩
  · rw [settings_eq_ok_iff]
    constructor
    · rintro ⟨file, hfile, hs, hvalid⟩
      exact ⟨_, (fileLayer_eq_ok_iff file).mp hfile, (layered_iff ..).mpr hs, hvalid⟩
    · rintro ⟨values, hloads, hlayered, hvalid⟩
      obtain ⟨file, hfile, rfl⟩ := (loads_iff values).mp hloads
      exact ⟨file, hfile, (layered_iff ..).mp hlayered, hvalid⟩
  · rw [settings_eq_error_iff, ← fileLayer_eq_error_iff]
    refine or_congr_right ?_
    constructor
    · rintro ⟨file, hfile, hvalid⟩
      exact ⟨_, _, (fileLayer_eq_ok_iff file).mp hfile, (layered_iff ..).mpr rfl, hvalid⟩
    · rintro ⟨values, s, hloads, hlayered, hvalid⟩
      obtain ⟨file, hfile, rfl⟩ := (loads_iff values).mp hloads
      obtain rfl := (layered_iff ..).mp hlayered
      exact ⟨file, hfile, hvalid⟩
  · exact ⟨said?_of_addAll (addAll_of_ofWords parsed) key, value?_eq_none_iff parsed key⟩

/-- A file system whose file `c` is the text. -/
def exampleDocument (text : String) : FileSystem :=
  FileSystem.empty.put [Utf8.encode "c"] (.file (Utf8.encode text) false)

/-- What a command line comes to that names `c` and gives a marker or none. -/
def exampleMarker (marker : Option String) : Arguments :=
  { layer := { inputMarker := marker }, config := some (.ofString "c") }

def exampleFault : RunError := .config "input marker 'a/b' must not contain a path separator"

/-- A flag repairs a file that is refused without it, and spoils a file that is
accepted without it. -/
theorem settings_are_layered_example :
    ((exampleMarker none).settings (exampleDocument "input_marker: a/b\njobs: 3\n") =
        .error exampleFault ∧
      ∃ file s,
        (exampleMarker (some "in")).Loads (exampleDocument "input_marker: a/b\njobs: 3\n") file ∧
        Layered (exampleMarker (some "in")).layer.value? file s ∧
        s.value .inputMarker = "in" ∧ s.value .jobs = 3 ∧
        s.validate (exampleDocument "input_marker: a/b\njobs: 3\n") = .ok ()) ∧
    ((exampleMarker none).settings (exampleDocument "jobs: 3\n") = .ok { jobs := 3 } ∧
      ∃ file s, (exampleMarker (some "a/b")).Loads (exampleDocument "jobs: 3\n") file ∧
        Layered (exampleMarker (some "a/b")).layer.value? file s ∧
        s.validate (exampleDocument "jobs: 3\n") = .error exampleFault) ∧
    (exampleMarker (some "in")).layer.value? .inputMarker = Key.said? .inputMarker
      (wordsFor .inputMarker (occurrencesIn ["--config", "c", "--input-marker", "in"])) := by
  refine ⟨⟨by decide +kernel, ?_⟩, ⟨by decide +kernel, ?_⟩, ?_⟩
  · have h : (exampleMarker (some "in")).settings
        (exampleDocument "input_marker: a/b\njobs: 3\n") = .ok { jobs := 3 } := by decide +kernel
    obtain ⟨file, hloads, hlayered, hvalid⟩ := ((settings_are_layered _ _).1 _).mp h
    exact ⟨file, _, hloads, hlayered, rfl, rfl, hvalid⟩
  · have h : (exampleMarker (some "a/b")).settings (exampleDocument "jobs: 3\n") =
        .error exampleFault := by decide +kernel
    obtain ⟨path, -, hunusable⟩ | hrefused := ((settings_are_layered _ _).2.1 _).mp h
    · cases hunusable
    · exact hrefused
  · exact ((settings_are_layered _ .empty).2.2 _ (by decide +kernel) _).1

end Arguments

end CommandLine

end GoldenFiles
