import GoldenFiles.CommandLine.Arguments
import GoldenFiles.Proofs.Text.Digits

/-!
# Options in words of their own

An option can be written with its value in the next word, and then the reading
cuts the words into options one by one: the first words of `use.words ++ words`
are that use, whatever comes after them. For most parameters this needs a value
that does not look like an option, which is part of what a `Use` is; the
arguments of the program need nothing of the kind, because `takes` does not
look at the shape of their word at all. Hence `said_words` has no case in which
a value is taken for an option, or an option for a value.

A word that spells a value of a parameter is then found to be that value, and
it is put in its place (`set_of_spells`).
-/

namespace GoldenFiles.CommandLine

/-- The words that name an option. -/
inductive Flag.Names (flag : Flag) : String → Prop where
  | long : Names flag ("--" ++ flag.long)
  | short {letter : Char} (h : flag.short? = some letter) : Names flag (.ofList ['-', letter])

/-- What a parameter can be given. -/
def Parameter.Value : Parameter → Type
  | .fixtures | .output | .program | .config => Path
  | .arg | .inputMarker | .outputMarker | .inputExtension | .expectedExtension | .filter => String
  | .jobs | .timeout => Nat
  | .stderr => StderrMode
  | .format => Format
  | .color => ColorMode

/-- The words for a number: digits, also with zeros or a plus sign in front. -/
inductive SpellsNumber (n : Nat) : List Char → Prop where
  | mk {sign ds : List Char} (signed : sign = [] ∨ sign = ['+']) (digits : Digits ds)
      (value : n = Nat.ofDigits 10 (ds.reverse.map Digits.worth)) (small : n < 2 ^ 64) :
      SpellsNumber n (sign ++ ds)

/-- The words for a value of a parameter. -/
def Parameter.Spells : (p : Parameter) → String → p.Value → Prop
  | .fixtures, word, v | .output, word, v | .program, word, v | .config, word, v =>
      word ≠ "" ∧ v = Path.ofString word
  | .arg, word, v | .inputMarker, word, v | .outputMarker, word, v | .inputExtension, word, v
  | .expectedExtension, word, v | .filter, word, v => v = word
  | .jobs, word, v | .timeout, word, v => SpellsNumber v word.toList
  | .stderr, word, v => word = StderrMode.word v
  | .format, word, v => word = Format.word v
  | .color, word, v => word = ColorMode.word v

/-- A word that cannot be taken for an option. -/
def IsFree (word : String) : Prop := word = "-" ∨ word.toList.head? ≠ some '-'

/-- An option as it is written in words of its own. -/
inductive Use where
  | diff (name : String) (named : (Flag.switch .diff).Names name)
  | verbose (name : String) (named : (Flag.switch .verbose).Names name)
  | value (p : Parameter) (name word : String) (v : p.Value)
      (named : (Flag.parameter p).Names name) (spelled : p.Spells word v)
      (free : p ≠ .arg → IsFree word)

namespace Use

/-- The option that is used. -/
def option : Use → Flag
  | diff .. => .switch .diff
  | verbose .. => .switch .verbose
  | value p .. => .parameter p

/-- The words of a use. -/
def words : Use → List String
  | diff name _ | verbose name _ => [name]
  | value _ name word .. => [name, word]

/-- What the words are found to say. -/
def occurrence : Use → Occurrence
  | diff .. => .switch .diff
  | verbose .. => .switch .verbose
  | value p _ word .. => .separate p (some word.toList)

end Use

/-! ## Names -/

theorem Flag.shape_long (flag : Flag) :
    shape ("--" ++ flag.long).toList = .long flag.long.toList none := by
  obtain s | p := flag
  · cases s <;> rfl
  · cases p <;> rfl

theorem Flag.ofLong?_long (flag : Flag) : Flag.ofLong? flag.long.toList = some flag := by
  obtain s | p := flag
  · cases s <;> rfl
  · cases p <;> rfl

theorem Flag.ofShort?_eq {flag : Flag} {letter : Char} (h : flag.short? = some letter) :
    Flag.ofShort? letter = some flag ∧ shape ['-', letter] = .short [letter] := by
  obtain s | p := flag
  · cases s <;> cases h <;> exact ⟨rfl, rfl⟩
  · cases p <;> cases h <;> exact ⟨rfl, rfl⟩

theorem said_switch {s : Switch} {name : String} (named : (Flag.switch s).Names name)
    (words : List (List Char)) :
    said none (name.toList :: words) = (said none words).cons (.switch s) := by
  cases named with
  | long =>
      rw [said, Option.filter_none]
      simp only [Flag.shape_long, Flag.ofLong?_long]
  | short h =>
      obtain ⟨hfound, hshape⟩ := Flag.ofShort?_eq h
      rw [said, Option.filter_none, String.toList_ofList]
      simp only [hshape, letters, hfound]
      rfl

theorem said_parameter {p : Parameter} {name : String} (named : (Flag.parameter p).Names name)
    (words : List (List Char)) : said none (name.toList :: words) = said (some p) words := by
  cases named with
  | long =>
      rw [said, Option.filter_none]
      simp only [Flag.shape_long, Flag.ofLong?_long]
  | short h =>
      obtain ⟨hfound, hshape⟩ := Flag.ofShort?_eq h
      rw [said, Option.filter_none, String.toList_ofList]
      simp only [hshape, letters, hfound]
      rfl

/-! ## Values -/

theorem IsFree.shape_eq {word : String} (h : IsFree word) : shape word.toList = .plain := by
  obtain rfl | h := h
  · rfl
  · unfold shape
    split
    · next heq => exact absurd (by rw [heq]; rfl) h
    · next heq => exact absurd (by rw [heq]; rfl) h
    · next heq => exact absurd (by rw [heq]; rfl) h
    · rfl

theorem takes_of_free {p : Parameter} {word : String} (free : p ≠ .arg → IsFree word) :
    takes p word.toList := by
  by_cases hp : p = .arg
  · exact decide_eq_true (.inl hp)
  · exact decide_eq_true (.inr (free hp).shape_eq)

/-- The words of a use are read as that use, and nothing else is read differently. -/
theorem said_words (use : Use) (words : List (List Char)) :
    said none (use.words.map String.toList ++ words) = (said none words).cons use.occurrence := by
  cases use with
  | diff name named | verbose name named => exact said_switch named words
  | value p name word v named spelled free =>
      show said none (name.toList :: word.toList :: words) = _
      rw [said_parameter named, said, Option.filter_some, if_pos (takes_of_free free)]
      rfl

theorem said_flatMap_words (uses : List Use) :
    said none ((uses.flatMap Use.words).map String.toList) =
      { occurrences := uses.map Use.occurrence } := by
  induction uses with
  | nil => rfl
  | cons use uses ih =>
      rw [List.flatMap_cons, List.map_append, said_words, ih]
      rfl

/-! ## Numbers -/

theorem SpellsNumber.number?_eq {n : Nat} {word : List Char} (h : SpellsNumber n word) :
    number? word = some n := by
  obtain ⟨signed, digits, value, small⟩ := h
  next sign ds =>
  rw [← Digits.value_eq_ofDigits] at value
  have hread : (Digits.number? ds).filter (· < Nat.pow 2 64) = some n := by
    rw [(Digits.number?_eq_some_iff ds n).mpr ⟨digits, value.symm⟩, Option.filter_some]
    exact if_pos (decide_eq_true small)
  obtain rfl | rfl := signed
  · unfold number?
    simp only []
    split
    · next rest heq =>
        have hplus : '+' ∈ ds := by
          rw [← List.nil_append ds, heq]
          exact List.mem_cons_self
        exact absurd (digits.digits _ hplus) (by decide)
    · exact hread
  · exact hread

/-! ## Settings -/

namespace Arguments

/-- Arguments with one more value for a parameter. -/
def put (a : Arguments) : (p : Parameter) → p.Value → Arguments
  | .fixtures, v => { a with layer := { a.layer with fixturesDir := some v } }
  | .output, v => { a with layer := { a.layer with outputDir := some v } }
  | .program, v => { a with layer := { a.layer with program := some v } }
  | .arg, (v : String) =>
      { a with layer := { a.layer with programArgs := some (a.layer.programArgs.getD [] ++ [v]) } }
  | .inputMarker, v => { a with layer := { a.layer with inputMarker := some v } }
  | .outputMarker, v => { a with layer := { a.layer with outputMarker := some v } }
  | .inputExtension, v => { a with layer := { a.layer with inputExtension := some v } }
  | .expectedExtension, v => { a with layer := { a.layer with expectedExtension := some v } }
  | .jobs, v => { a with layer := { a.layer with jobs := some v } }
  | .timeout, v => { a with layer := { a.layer with timeoutSecs := some v } }
  | .filter, v => { a with layer := { a.layer with filter := some (some v) } }
  | .stderr, v => { a with layer := { a.layer with stderr := some v } }
  | .format, v => { a with format? := some v }
  | .color, v => { a with color? := some v }
  | .config, v => { a with config := some v }

/-- A word that spells a value gives that value. -/
theorem set_of_spells (a : Arguments) {p : Parameter} {word : String} {v : p.Value}
    (spelled : p.Spells word v) : a.set p word.toList = .ok (a.put p v) := by
  have hpath : ∀ {path : Path} (use : Path → Except UsageError Arguments),
      word ≠ "" ∧ path = .ofString word → (if word.toList = [] then .error .invalidValue
        else use (.ofString (.ofList word.toList))) = use path := by
    rintro path use ⟨hne, rfl⟩
    rw [if_neg fun h => hne (String.toList_eq_nil_iff.mp h), String.ofList_toList]
  have htext : ∀ {text : String} (use : String → Except UsageError Arguments),
      text = word → use (.ofList word.toList) = use text := by
    rintro _ use rfl
    rw [String.ofList_toList]
  cases p with
  | fixtures => exact hpath (.ok <| a.put .fixtures ·) spelled
  | output => exact hpath (.ok <| a.put .output ·) spelled
  | program => exact hpath (.ok <| a.put .program ·) spelled
  | config => exact hpath (.ok <| a.put .config ·) spelled
  | arg => exact htext (.ok <| a.put .arg ·) spelled
  | inputMarker => exact htext (.ok <| a.put .inputMarker ·) spelled
  | outputMarker => exact htext (.ok <| a.put .outputMarker ·) spelled
  | inputExtension => exact htext (.ok <| a.put .inputExtension ·) spelled
  | expectedExtension => exact htext (.ok <| a.put .expectedExtension ·) spelled
  | filter => exact htext (.ok <| a.put .filter ·) spelled
  | jobs | timeout =>
      have hread := SpellsNumber.number?_eq spelled
      simp only [set, hread]
      rfl
  | stderr | format | color =>
      obtain rfl := spelled
      cases v <;> rfl

end Arguments

end GoldenFiles.CommandLine
