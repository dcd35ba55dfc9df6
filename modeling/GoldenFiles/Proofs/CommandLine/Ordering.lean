import GoldenFiles.Proofs.CommandLine.Spelling
import Mathlib.Data.List.Nodup

/-!
# The order of options

What a command line says is computed here from its options alone, without the
words: `ofUses` asks of each parameter which values it is given and of each
switch how often it is used, and never which option stands before which.
`add_new` and `add_used` are what one more option does to that, and
`addAll_occurrences` follows by induction on the options still to come, with
those already added in front.

One thing keeps its order. The values for the program are a list, so that an order of
the options may move everything else around them but not them around each
other; a parameter that is given one value has no order to keep
(`valuesFor_of_perm`).
-/

namespace GoldenFiles.CommandLine

namespace Use

/-- The value that a use gives to a parameter. -/
def valueFor? (p : Parameter) : Use → Option p.Value
  | value q _ _ v _ _ _ => if h : q = p then some (h ▸ v) else none
  | diff .. | verbose .. => none

end Use

/-- The values that are given to a parameter, in order. -/
def valuesFor (p : Parameter) (uses : List Use) : List p.Value := uses.filterMap (·.valueFor? p)

/-- Whether an option can be used once only. -/
def Flag.isSingle : Flag → Bool
  | .parameter .arg | .switch .verbose => false
  | _ => true

/-- The options that are used, in order. -/
def optionsOf (uses : List Use) : List Flag := uses.map Use.option

/-- No option that can be used once is used twice. -/
def Once (uses : List Use) : Prop := ((optionsOf uses).filter Flag.isSingle).Nodup

instance (uses : List Use) : Decidable (Once uses) := inferInstanceAs (Decidable (List.Nodup _))

/-- The arguments of the program. If none are said, the layers below are asked. -/
def argsOf (words : List String) : Option (List String) := if words = [] then none else some words

/-- What the values for each parameter, a switch and a number of messages say. -/
def Arguments.ofValues (values : (p : Parameter) → List p.Value) (diff : Bool) (messages : Nat) :
    Arguments where
  layer :=
    { fixturesDir := (values .fixtures).head?
      outputDir := (values .output).head?
      program := (values .program).head?
      programArgs := argsOf (values .arg)
      inputMarker := (values .inputMarker).head?
      outputMarker := (values .outputMarker).head?
      inputExtension := (values .inputExtension).head?
      expectedExtension := (values .expectedExtension).head?
      jobs := (values .jobs).head?
      timeoutSecs := (values .timeout).head?
      filter := (values .filter).head?.map some
      stderr := (values .stderr).head? }
  config := (values .config).head?
  format? := (values .format).head?
  color? := (values .color).head?
  diff := diff
  verbose := min mostVerbose messages

/-- What uses of options say together. -/
def Arguments.ofUses (uses : List Use) : Arguments :=
  .ofValues (valuesFor · uses) (.switch .diff ∈ optionsOf uses)
    ((optionsOf uses).count (.switch .verbose))

/-! ## Uses one after the other -/

section

variable {front : List Use} {use : Use} {p : Parameter}

theorem Use.isSome_valueFor? (p : Parameter) (use : Use) :
    (use.valueFor? p).isSome = (use.option == .parameter p) := by
  cases use with
  | diff | verbose => rfl
  | value q name word v named spelled free =>
      rw [valueFor?, option]
      split
      · next h => simp [h]
      · next h => simp [h]

theorem length_valuesFor (p : Parameter) (uses : List Use) :
    (valuesFor p uses).length = (optionsOf uses).count (.parameter p) := by
  rw [valuesFor, List.length_filterMap_eq_countP, optionsOf, List.count, List.countP_map]
  exact List.countP_congr fun use _ => by rw [use.isSome_valueFor? p]; rfl

theorem valuesFor_eq_nil_iff : valuesFor p front = [] ↔ .parameter p ∉ optionsOf front := by
  rw [← List.length_eq_zero_iff, length_valuesFor, List.count_eq_zero]

theorem valuesFor_concat (p : Parameter) (front : List Use) (use : Use) :
    valuesFor p (front ++ [use]) = valuesFor p front ++ (use.valueFor? p).toList := by
  rw [valuesFor, List.filterMap_append, List.filterMap_cons]
  cases use.valueFor? p <;> rfl

theorem optionsOf_concat (front : List Use) (use : Use) :
    optionsOf (front ++ [use]) = optionsOf front ++ [use.option] := List.map_append

theorem Once.of_append {back : List Use} (h : Once (front ++ back)) : Once front := by
  rw [Once, optionsOf, List.map_append, List.filter_append] at h
  exact (List.nodup_append.mp h).1

theorem isSingle_parameter : (Flag.parameter p).isSingle ↔ p ≠ .arg := by
  cases p <;> simp [Flag.isSingle]

theorem once_concat_iff : Once (front ++ [use]) ↔
    Once front ∧ (use.option.isSingle → use.option ∉ optionsOf front) := by
  rw [Once, optionsOf_concat, List.filter_append, Once]
  cases h : use.option.isSingle with
  | false => simp [h]
  | true =>
      rw [List.perm_append_comm.nodup_iff, List.filter_singleton, h, cond_true,
        List.singleton_append, List.nodup_cons, List.mem_filter, h, and_comm]
      simp

end

/-! ## Adding uses -/

namespace Arguments

variable {front : List Use} {use : Use} {p : Parameter}

theorem argsOf_concat (words : List String) (word : String) :
    argsOf (words ++ [word]) = some ((argsOf words).getD [] ++ [word]) := by
  rw [argsOf, if_neg (List.concat_ne_nil word words), argsOf]
  split
  · next hnone => rw [hnone, Option.getD_none]
  · rfl

theorem ofValues_put {values : (p : Parameter) → List p.Value} {p : Parameter}
    (h : p ≠ .arg → values p = []) (v : p.Value) (diff : Bool) (messages : Nat) :
    (ofValues values diff messages).put p v =
      ofValues (fun q => values q ++ (if h : p = q then some (h ▸ v) else none).toList) diff
        messages := by
  cases p with
  | arg =>
      simp only [ofValues, put, reduceCtorEq, ↓reduceDIte, Option.toList_none, List.append_nil]
      rw [← argsOf_concat (values .arg) v]
      rfl
  | _ =>
      simp only [ofValues, reduceCtorEq, ↓reduceDIte, Option.toList_none, List.append_nil,
        h Parameter.noConfusion]
      rfl

theorem has_ofUses (hp : p ≠ .arg) (front : List Use) :
    (ofUses front).has p ↔ .parameter p ∈ optionsOf front := by
  have hhas : (ofUses front).has p = (valuesFor p front).head?.isSome := by
    cases p with
    | arg => exact absurd rfl hp
    | filter => exact Option.isSome_map
    | _ => rfl
  rw [hhas, List.isSome_head?, ← not_iff_not, ← valuesFor_eq_nil_iff]
  simp

theorem ofUses_concat (front : List Use) (use : Use) :
    ofUses (front ++ [use]) = ofValues (fun p => valuesFor p front ++ (use.valueFor? p).toList)
      (.switch .diff ∈ optionsOf front ∨ .switch .diff = use.option)
      ((optionsOf front).count (.switch .verbose) + [use.option].count (.switch .verbose)) := by
  simp only [ofUses, valuesFor_concat, optionsOf_concat, List.count_append, List.mem_append,
    List.mem_singleton]

/-- An option that can be used once more is. -/
theorem add_new (new : use.option.isSingle → use.option ∉ optionsOf front) :
    (ofUses front).add use.occurrence = .ok (ofUses (front ++ [use])) := by
  rw [ofUses_concat]
  cases use with
  | diff name named =>
      have hnew : Flag.switch .diff ∉ optionsOf front := new rfl
      show (if decide (Flag.switch .diff ∈ optionsOf front) then _ else _) = _
      rw [if_neg (by simpa using hnew)]
      simp [ofUses, ofValues, Use.valueFor?, Use.option]
  | verbose name named =>
      have hcount : ∀ n, min mostVerbose (min mostVerbose n + 1) = min mostVerbose (n + 1) := by
        omega
      show Except.ok _ = _
      simp [ofUses, ofValues, Use.valueFor?, Use.option, hcount]
  | value p name word v named spelled free =>
      have hnone : p ≠ .arg → valuesFor p front = [] := by
        intro hp
        exact valuesFor_eq_nil_iff.mpr (new (isSingle_parameter.mpr hp))
      have hnew : ¬(ofUses front).has p := by
        intro hhas
        by_cases hp : p = .arg
        · subst hp
          cases hhas
        · exact valuesFor_eq_nil_iff.mp (hnone hp) ((has_ofUses hp front).mp hhas)
      show (ofUses front).give p word.toList = _
      rw [give, if_neg hnew, set_of_spells _ spelled, ofUses, ofValues_put hnone]
      simp [Use.valueFor?, Use.option]

theorem add_used (single : use.option.isSingle) (used : use.option ∈ optionsOf front) :
    (ofUses front).add use.occurrence = .error .argumentConflict := by
  cases use with
  | diff name named => exact if_pos (decide_eq_true used)
  | verbose name named => cases single
  | value p name word v named spelled free =>
      exact if_pos ((has_ofUses (isSingle_parameter.mp single) front).mpr used)

/-- Uses are added until an option is used that has been used up. -/
theorem addAll_occurrences (once : Once front) (back : List Use) :
    (ofUses front).addAll (back.map Use.occurrence) =
      if Once (front ++ back) then .ok (ofUses (front ++ back)) else .error .argumentConflict := by
  induction back generalizing front with
  | nil =>
      rw [List.append_nil, if_pos once]
      rfl
  | cons use back ih =>
      rw [List.map_cons, addAll]
      by_cases hnew : use.option.isSingle → use.option ∉ optionsOf front
      · have honce : Once (front ++ [use]) := once_concat_iff.mpr ⟨once, hnew⟩
        simp only [add_new hnew, ih honce, List.append_assoc, List.singleton_append]
      · obtain ⟨single, used⟩ := Classical.not_imp.mp hnew
        have hnot : ¬Once (front ++ use :: back) := by
          rw [← List.singleton_append, ← List.append_assoc]
          exact fun h => hnew (once_concat_iff.mp (Once.of_append h)).2
        simp only [add_used single (not_not.mp used), if_neg hnot]

theorem ofWords_words (uses : List Use) :
    ofWords (uses.flatMap Use.words) =
      if Once uses then .ok (ofUses uses) else .error .argumentConflict := by
  have hnone : Once [] := List.nodup_nil
  have hadd := addAll_occurrences hnone uses
  have hjudged : ({ occurrences := uses.map Use.occurrence } : Said).judged =
      uses.map Use.occurrence := if_neg (by simp)
  rw [ofWords, said_flatMap_words]
  simp only [hjudged]
  rw [show ({} : Arguments) = ofUses [] from rfl, hadd, List.nil_append]
  split
  · next heq => exact heq.symm
  · next heq => exact heq.symm

/-! ## Orders -/

theorem once_of_perm {uses other : List Use} (h : other.Perm uses) : Once other ↔ Once uses :=
  ((h.map Use.option).filter Flag.isSingle).nodup_iff

/-- A parameter that is used once has no order. -/
theorem valuesFor_of_perm {uses other : List Use} (h : other.Perm uses) (once : Once uses)
    (hp : p ≠ .arg) : valuesFor p other = valuesFor p uses := by
  have hlength : (valuesFor p uses).length ≤ 1 := by
    rw [length_valuesFor, ← List.count_filter (isSingle_parameter.mpr hp)]
    exact List.nodup_iff_count_le_one.mp once _
  have hperm : (valuesFor p other).Perm (valuesFor p uses) := h.filterMap _
  match hvalues : valuesFor p uses with
  | [] =>
      rw [hvalues] at hperm
      exact hperm.eq_nil
  | [v] =>
      rw [hvalues] at hperm
      exact List.perm_singleton.mp hperm
  | v :: w :: rest =>
      rw [hvalues] at hlength
      simp at hlength

theorem ofUses_of_perm {uses other : List Use} (h : other.Perm uses) (once : Once uses)
    (hargs : valuesFor .arg other = valuesFor .arg uses) : ofUses other = ofUses uses := by
  have hvalues : (valuesFor · other) = (valuesFor · uses) := by
    funext p
    by_cases hp : p = .arg
    · subst hp
      exact hargs
    · exact valuesFor_of_perm h once hp
  have hoptions : (optionsOf other).Perm (optionsOf uses) := h.map Use.option
  simp only [ofUses, hvalues, hoptions.mem_iff, hoptions.count_eq]

/-- Options that are used no more often than they can be say what each of them says, and
they say it in every order that keeps the arguments of the program in theirs. Options
that are used more often say nothing. -/
theorem options_in_any_order (uses : List Use) :
    (Once uses → ofWords (uses.flatMap Use.words) = .ok (ofUses uses) ∧
      ∀ other : List Use, other.Perm uses → valuesFor .arg other = valuesFor .arg uses →
        ofWords (other.flatMap Use.words) = ofWords (uses.flatMap Use.words)) ∧
    (¬Once uses → ofWords (uses.flatMap Use.words) = .error .argumentConflict) := by
  refine ⟨fun once => ⟨?_, fun other hperm hargs => ?_⟩, fun hnot => ?_⟩
  · rw [ofWords_words, if_pos once]
  · rw [ofWords_words, ofWords_words, if_pos once, if_pos ((once_of_perm hperm).mpr once),
      ofUses_of_perm hperm once hargs]
  · rw [ofWords_words, if_neg hnot]

/-- An argument of the program, whatever it looks like. -/
def exampleArg (word : String) : Use := .value .arg "--arg" word word .long rfl (absurd rfl)

theorem spellsNumber_example : SpellsNumber 9 (['+'] ++ ['0', '9']) :=
  .mk (.inr rfl) (by decide) rfl (by decide)

/-- Nine jobs. -/
def exampleJobs : Use :=
  .value .jobs "-j" "+09" (9 : Nat) (.short rfl) spellsNumber_example fun _ => .inr (by decide)

/-- A switch. -/
def exampleDiff : Use := .diff "--diff" .long

/-- Arguments of the program look like a switch and like the double dash, and the
option between them moves to the end; a switch stands twice around one of them. -/
theorem options_in_any_order_example :
    (ofWords ["--arg", "--diff", "-j", "+09", "--arg", "--"] =
        .ok { layer := { programArgs := some ["--diff", "--"], jobs := some 9 } } ∧
      ofWords ["--arg", "--diff", "--arg", "--", "-j", "+09"] =
        ofWords ["--arg", "--diff", "-j", "+09", "--arg", "--"]) ∧
    ofWords ["--diff", "--arg", "--diff", "--diff"] = .error .argumentConflict := by
  refine ⟨?_, ?_⟩
  · obtain ⟨hparse, horder⟩ := (options_in_any_order [exampleArg "--diff", exampleJobs,
      exampleArg "--"]).1 (by decide)
    have hswap : [exampleArg "--", exampleJobs].Perm [exampleJobs, exampleArg "--"] := .swap ..
    exact ⟨hparse, horder _ (hswap.cons (exampleArg "--diff")) rfl⟩
  · exact (options_in_any_order [exampleDiff, exampleArg "--diff", exampleDiff]).2 (by decide)

end Arguments

end GoldenFiles.CommandLine
