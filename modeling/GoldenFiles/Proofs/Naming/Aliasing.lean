import GoldenFiles.Proofs.Run.Planned

/-!
# Outputs that are taken for inputs

A scheme is accepted if its two pairs of marker and extension differ, but two
different pairs can still make one name: with the markers `in` and `inx` and one
extension, `inx1` is the output of case 1 and the input of case x1. There are
two ways to this. Either the output marker has no dot, and then the extensions
are the same and one marker starts with the other; or the first dot of the name
stands in the output marker, and then the input extension takes up the rest of
the marker, the identifier and the expected extension.

`Scheme.aliased` looks for both. It finds every scheme in which some output has
the name of some input, and no other, so it is what acceptance would have to
ask for.
-/

namespace GoldenFiles

namespace Scheme

/-- A text cut at its first dot. -/
def atDot (text : List Char) : Option (List Char × List Char) :=
  match text.dropWhile (· ≠ '.') with
  | [] => none
  | _ :: back => some (text.takeWhile (· ≠ '.'), back)

/-- Whether an output can have the name of an input. -/
def aliased (scheme : Scheme) : Bool :=
  let input := scheme.inputMarker.toList
  let output := scheme.outputMarker.toList
  match atDot output with
  | none =>
      scheme.inputExtension = scheme.expectedExtension ∧ (input <+: output ∨ output <+: input)
  | some (front, back) =>
      (dropLeading? input front).any (· ≠ []) ∧
        ((dropLeading? back scheme.inputExtension.toList).bind atDot).any fun (id, extension) =>
          id ≠ [] ∧ extension = scheme.expectedExtension.toList

theorem atDot_append {front : List Char} (h : '.' ∉ front) (back : List Char) :
    atDot (front ++ '.' :: back) = some (front, back) := by
  obtain ⟨htake, hdrop⟩ := takeWhile_dot h back
  rw [atDot, hdrop, htake]

theorem atDot_eq_none_iff (text : List Char) : atDot text = none ↔ '.' ∉ text := by
  constructor
  · intro h hmem
    obtain ⟨front, back, rfl, hfront⟩ := List.eq_append_cons_of_mem hmem
    rw [atDot_append hfront] at h
    cases h
  · intro h
    have hdrop : text.dropWhile (· ≠ '.') = [] := by
      rw [List.dropWhile_eq_nil_iff]
      intro c hc
      exact decide_eq_true fun hdot => h (hdot ▸ hc)
    rw [atDot, hdrop]

theorem atDot_eq_some_iff (text front back : List Char) :
    atDot text = some (front, back) ↔ text = front ++ '.' :: back ∧ '.' ∉ front := by
  constructor
  · intro h
    have hmem : '.' ∈ text := by
      by_contra hno
      rw [(atDot_eq_none_iff text).mpr hno] at h
      cases h
    obtain ⟨as, bs, rfl, has⟩ := List.eq_append_cons_of_mem hmem
    rw [atDot_append has] at h
    obtain ⟨rfl, rfl⟩ := Prod.mk.inj (Option.some.inj h)
    exact ⟨rfl, has⟩
  · rintro ⟨rfl, h⟩
    exact atDot_append h back

/-- Two texts that make one name, one as an output's identifier and one as an input's. -/
structure Confuses (scheme : Scheme) (i j : List Char) : Prop where
  output_plain : PlainText i
  input_plain : PlainText j
  same : scheme.outputMarker.toList ++ (i ++ '.' :: scheme.expectedExtension.toList) =
    scheme.inputMarker.toList ++ (j ++ '.' :: scheme.inputExtension.toList)

theorem exists_confuses_iff (scheme : Scheme) : (∃ i j, scheme.Confuses i j) ↔
    ∃ i j : CaseId, i.Plain ∧ j.Plain ∧ scheme.outputName i = scheme.inputName j := by
  constructor
  · rintro ⟨i, j, hi, hj, hsame⟩
    refine ⟨⟨String.ofList i⟩, ⟨String.ofList j⟩, ?_, ?_, ?_⟩
    · rwa [CaseId.Plain, String.toList_ofList]
    · rwa [CaseId.Plain, String.toList_ofList]
    · rwa [← String.toList_inj, toList_outputName, toList_inputName, String.toList_ofList,
        String.toList_ofList]
  · rintro ⟨i, j, hi, hj, hsame⟩
    refine ⟨i.text.toList, j.text.toList, hi, hj, ?_⟩
    rw [← toList_outputName, ← toList_inputName, hsame]

section Parts

variable {scheme : Scheme}

/-- What is left of a marker without a dot, and a digit behind it. -/
theorem plain_rest {marker front rest : List Char} (h : front ++ rest = marker)
    (dot : '.' ∉ marker) (slash : ∀ c ∈ marker, c ≠ '/' ∧ c ≠ '\\') :
    PlainText (rest ++ ['0']) := by
  have hrest : ∀ c ∈ rest, c ∈ marker := fun c hc => h ▸ List.mem_append_right _ hc
  refine ⟨by simp, ?_, ?_⟩
  · rintro hmem
    rcases List.mem_append.mp hmem with hmem | hmem
    · exact dot (hrest _ hmem)
    · exact absurd hmem (by decide)
  · rintro hmem
    rcases List.mem_append.mp hmem with hmem | hmem
    · exact (slash _ (hrest _ hmem)).1 rfl
    · exact absurd hmem (by decide)

theorem confuses_iff_of_no_dot (sound : scheme.Sound) (h : '.' ∉ scheme.outputMarker.toList) :
    (∃ i j, scheme.Confuses i j) ↔ scheme.inputExtension = scheme.expectedExtension ∧
      (scheme.inputMarker.toList <+: scheme.outputMarker.toList ∨
        scheme.outputMarker.toList <+: scheme.inputMarker.toList) := by
  have hzero : PlainText ['0'] := ⟨by decide, by decide, by decide⟩
  constructor
  · rintro ⟨i, j, hi, hj, hsame⟩
    have hout : '.' ∉ scheme.outputMarker.toList ++ i :=
      fun hmem => (List.mem_append.mp hmem).elim h hi.no_dot
    have hin : '.' ∉ scheme.inputMarker.toList ++ j :=
      fun hmem => (List.mem_append.mp hmem).elim sound.no_dot hj.no_dot
    rw [← List.append_assoc, ← List.append_assoc] at hsame
    obtain ⟨hfront, hext⟩ := (append_dot_inj hout hin).mp hsame
    refine ⟨(String.toList_inj.mp hext).symm, ?_⟩
    exact List.prefix_or_prefix_of_prefix (List.prefix_append _ _) (hfront ▸ List.prefix_append _ _)
  · rintro ⟨hext, ⟨rest, hrest⟩ | ⟨rest, hrest⟩⟩
    · have hplain := plain_rest hrest h (sound.no_separator .outputMarker)
      refine ⟨['0'], rest ++ ['0'], hzero, hplain, ?_⟩
      rw [← hrest, hext]
      simp
    · have hplain := plain_rest hrest sound.no_dot (sound.no_separator .inputMarker)
      refine ⟨rest ++ ['0'], ['0'], hplain, hzero, ?_⟩
      rw [← hrest, hext]
      simp

theorem confuses_iff_of_dot (sound : scheme.Sound) {front back : List Char}
    (h : scheme.outputMarker.toList = front ++ '.' :: back) (hfront : '.' ∉ front) :
    (∃ i j, scheme.Confuses i j) ↔
      (∃ j, front = scheme.inputMarker.toList ++ j ∧ j ≠ []) ∧
        ∃ i, scheme.inputExtension.toList =
          back ++ (i ++ '.' :: scheme.expectedExtension.toList) ∧ '.' ∉ i ∧ i ≠ [] := by
  have hsame : ∀ i j, '.' ∉ j →
      (scheme.outputMarker.toList ++ (i ++ '.' :: scheme.expectedExtension.toList) =
          scheme.inputMarker.toList ++ (j ++ '.' :: scheme.inputExtension.toList) ↔
        front = scheme.inputMarker.toList ++ j ∧
          back ++ (i ++ '.' :: scheme.expectedExtension.toList) =
            scheme.inputExtension.toList) := by
    intro i j hj
    have hin : '.' ∉ scheme.inputMarker.toList ++ j :=
      fun hmem => (List.mem_append.mp hmem).elim sound.no_dot hj
    rw [h, List.append_assoc, List.cons_append, ← List.append_assoc scheme.inputMarker.toList]
    exact append_dot_inj hfront hin
  constructor
  · rintro ⟨i, j, hi, hj, heq⟩
    obtain ⟨hmarker, hext⟩ := (hsame i j hj.no_dot).mp heq
    exact ⟨⟨j, hmarker, hj.ne_nil⟩, i, hext.symm, hi.no_dot, hi.ne_nil⟩
  · rintro ⟨⟨j, hmarker, hj⟩, i, hext, hdot, hi⟩
    have hjdot : '.' ∉ j := fun hmem => hfront (hmarker ▸ List.mem_append_right _ hmem)
    refine ⟨i, j, ⟨hi, hdot, fun hmem => ?_⟩, ⟨hj, hjdot, fun hmem => ?_⟩,
      (hsame i j hjdot).mpr ⟨hmarker, hext.symm⟩⟩
    · refine (sound.no_separator .inputExtension '/' ?_).1 rfl
      show '/' ∈ scheme.inputExtension.toList
      rw [hext]
      exact List.mem_append_right _ (List.mem_append_left _ hmem)
    · refine (sound.no_separator .outputMarker '/' ?_).1 rfl
      show '/' ∈ scheme.outputMarker.toList
      rw [h, hmarker]
      exact List.mem_append_left _ (List.mem_append_right _ hmem)

/-- An output can have the name of an input just in the two ways looked for. -/
theorem Sound.aliased_iff (sound : scheme.Sound) : scheme.aliased = true ↔
    ∃ i j : CaseId, i.Plain ∧ j.Plain ∧ scheme.outputName i = scheme.inputName j := by
  rw [← exists_confuses_iff, aliased]
  simp only []
  split
  · next hdot =>
      rw [confuses_iff_of_no_dot sound ((atDot_eq_none_iff _).mp hdot), decide_eq_true_iff]
  · next front back hdot =>
      obtain ⟨hmarker, hfront⟩ := (atDot_eq_some_iff ..).mp hdot
      rw [confuses_iff_of_dot sound hmarker hfront, decide_eq_true_iff]
      simp only [Option.any_eq_true, Option.bind_eq_some_iff, dropLeading?_eq_some_iff,
        decide_eq_true_eq, Prod.exists, atDot_eq_some_iff]
      refine and_congr_right fun _ => exists_congr fun i => ?_
      constructor
      · rintro ⟨extension, ⟨rest, hext, rfl, hi⟩, hne, rfl⟩
        exact ⟨hext, hi, hne⟩
      · rintro ⟨hext, hi, hne⟩
        exact ⟨_, ⟨_, hext, rfl, hi⟩, hne, rfl⟩

end Parts

end Scheme

/-- Accepted settings keep outputs and inputs apart by their names just if their
scheme is not aliased; then no output is ever discovered, and no case of a plan
has its expected output where another one has its input. -/
theorem names_apart_iff {s : Settings} {fs : FileSystem} (valid : s.validate fs = .ok ()) :
    ((∀ i j : CaseId, i.Plain → j.Plain → s.scheme.outputName i ≠ s.scheme.inputName j) ↔
      s.scheme.aliased = false) ∧
    (s.scheme.aliased = false →
      (∀ i j : CaseId, i.Plain → s.scheme.classify (s.scheme.outputName i) ≠ .fixture j) ∧
      ∀ (gs : FileSystem) (host : Host) (cases : List TestCase) (rejected : List Rejected),
        gs.WellFormed → plan s gs host = .ok (cases, rejected) →
        ∀ c ∈ cases, ∀ d ∈ cases, ¬c.artifacts.expected.Same d.input) := by
  have sound := ((s.validate_eq_ok_iff fs).mp valid).sound
  have hiff : (∀ i j : CaseId, i.Plain → j.Plain →
      s.scheme.outputName i ≠ s.scheme.inputName j) ↔ s.scheme.aliased = false := by
    rw [← Bool.not_eq_true, sound.aliased_iff]
    constructor
    · rintro h ⟨i, j, hi, hj, hsame⟩
      exact h i j hi hj hsame
    · intro h i j hi hj hsame
      exact h ⟨i, j, hi, hj, hsame⟩
  refine ⟨hiff, fun hfree => ⟨fun i j hi hclass => ?_, ?_⟩⟩
  · have hslash : '/' ∉ (s.scheme.outputName i).toList := by
      rw [← Scheme.slash_mem_encode_iff]
      exact (sound.outputName_normal hi.no_slash).no_slash
    exact hiff.mpr hfree i j hi (Scheme.plain_of_classify hclass hslash)
      (Scheme.inputName_of_classify hclass)
  · intro gs host cases rejected wf hplan c hc d hd hsame
    have plans := plans_of_mem_plan wf sound hplan
    have plain := plain_of_mem_plan wf hplan
    rw [Path.Same, (plans c hc).components_expected, (plans d hd).components_input] at hsame
    have hfile : s.outputFile c.id = s.inputFile d.id := by simpa using hsame
    exact hiff.mpr hfree c.id d.id (plain c hc) (plain d hd) (Utf8.encode_injective hfile)

theorem names_apart_iff_example :
    exampleSettings.validate exampleFiles = .ok () ∧
      ∀ c ∈ exampleCases, ∀ d ∈ exampleCases, ¬c.artifacts.expected.Same d.input :=
  have valid : exampleSettings.validate exampleFiles = .ok () := by decide +kernel
  ⟨valid, ((names_apart_iff valid).2 (by decide)).2 exampleFiles {} exampleCases exampleRejected
    (by decide +kernel) plan_example⟩

/-- Settings with an output marker that starts with the input marker. -/
def aliasedSettings : Settings :=
  { fixturesDir := .ofString "f"
    outputDir := .ofString "o"
    scheme := { outputMarker := "inx", expectedExtension := "py" } }

/-- An input and its expected output. -/
def aliasedFiles : FileSystem where
  entries :=
    [([Utf8.encode "f"], .directory),
      ([Utf8.encode "in1.py", Utf8.encode "f"], .file [] false),
      ([Utf8.encode "inx1.py", Utf8.encode "f"], .file [0x31, 0x0a] false)]
  here := []
  distinct := by decide +kernel

/-- The expected output is a case as well. -/
def aliasedCases : List TestCase :=
  [⟨⟨"1"⟩, .ofString "f/in1.py", ⟨.ofString "o/inx1.py", .ofString "f/inx1.py"⟩⟩,
    ⟨⟨"x1"⟩, .ofString "f/inx1.py", ⟨.ofString "o/inxx1.py", .ofString "f/inxx1.py"⟩⟩]

/-- An expected output of accepted settings is discovered as an input. -/
theorem expected_output_is_discovered :
    aliasedSettings.validate aliasedFiles = .ok () ∧
      plan aliasedSettings aliasedFiles = .ok (aliasedCases, []) ∧
      (CaseId.mk "1").Plain ∧ (CaseId.mk "x1").Plain ∧
      aliasedSettings.scheme.outputName ⟨"1"⟩ = aliasedSettings.scheme.inputName ⟨"x1"⟩ ∧
      ∃ c ∈ aliasedCases, ∃ d ∈ aliasedCases, c ≠ d ∧ c.artifacts.expected.Same d.input := by
  have hlist : aliasedFiles.list aliasedSettings.fixturesDir = .ok
      [⟨Utf8.encode "in1.py", .ofString "f/in1.py", .file [] false⟩,
        ⟨Utf8.encode "inx1.py", .ofString "f/inx1.py", .file [0x31, 0x0a] false⟩] := by
    decide +kernel
  refine ⟨by decide +kernel, ?_, ⟨by decide, by decide, by decide⟩,
    ⟨by decide, by decide, by decide⟩, by decide, ?_⟩
  · rw [plan_of_list (Host.matches_default _) hlist (by decide +kernel) (by decide +kernel)]
    decide +kernel
  · refine ⟨_, List.mem_cons_self, _, List.mem_cons_of_mem _ List.mem_cons_self, ?_, ?_⟩
    · decide +kernel
    · decide +kernel

end GoldenFiles
