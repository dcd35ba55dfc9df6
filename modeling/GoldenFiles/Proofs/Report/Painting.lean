import GoldenFiles.Proofs.Decimal.Numeral
import GoldenFiles.Proofs.Report.Difference
import GoldenFiles.Text.ControlSequence

/-!
# Colours only decorate

A report is written with colours or without, and the two differ in nothing but the colours.
`Paints` says what that means of two texts: the coloured one is the other with some stretches
of it painted, and a painted stretch brings its own sequences, one group to set the style in
front and one to take it back behind, with none in between. So no colour is set while another
one is, and none is left at the end, whatever the terminal does with the next report.

Of pieces the same is `Paired`. Every part of a listing has paired pieces on either stream,
also a change of many lines, which is one stretch. What could spoil it is text that writes
sequences of its own, hence the assumption that no text of a report has an escape character.
-/

namespace GoldenFiles

open Diff (Change Line)

/-- A text without an escape character. -/
def Unescaped (text : List Char) : Prop := '\x1b' ∉ text

instance (text : List Char) : Decidable (Unescaped text) := inferInstanceAs (Decidable (¬_))

theorem unescaped_append {front back : List Char} :
    Unescaped (front ++ back) ↔ Unescaped front ∧ Unescaped back := by
  simp only [Unescaped, List.mem_append, not_or]

namespace Styled

/-- The sequence that goes back to plain text. -/
def resetting : List Char := "\x1b[0m".toList

/-- The sequences that set a style. -/
def setting (color : Option Color) (bold : Bool) : List Char :=
  resetting ++ (if bold then "\x1b[1m".toList else []) ++
    match color with
    | none => []
    | some .red => "\x1b[31m".toList
    | some .green => "\x1b[32m".toList
    | some .yellow => "\x1b[33m".toList

/-- The first text is the second one with some stretches painted, each by itself. -/
inductive Paints : List Char → List Char → Prop where
  | nil : Paints [] []
  | plain {c : Char} {colored bare : List Char} (h : c ≠ '\x1b') (h' : Paints colored bare) :
      Paints (c :: colored) (c :: bare)
  | stretch (color : Option Color) (bold : Bool) {inner colored bare : List Char}
      (h : Unescaped inner) (h' : Paints colored bare) :
      Paints (setting color bold ++ inner ++ resetting ++ colored) (inner ++ bare)

theorem Paints.append_front {front colored bare : List Char} (h : Unescaped front)
    (h' : Paints colored bare) : Paints (front ++ colored) (front ++ bare) := by
  induction front with
  | nil => exact h'
  | cons c front ih =>
      obtain ⟨hc, hfront⟩ := not_or.mp (mt List.mem_cons.mpr h)
      exact .plain (Ne.symm hc) (ih hfront)

/-! ## Deleting the sequences -/

theorem shown_append {front : List Char} (h : Unescaped front) (back : List Char) :
    Text.shown (front ++ back) = front ++ Text.shown back := by
  induction front with
  | nil => rfl
  | cons c front ih =>
      obtain ⟨hc, hfront⟩ := not_or.mp (mt List.mem_cons.mpr h)
      have ih := ih hfront
      simp only [Text.shown, Text.marked] at ih
      simp [Text.shown, Text.marked, Text.markedFrom, Text.SequenceState.shows,
        Text.SequenceState.next, Ne.symm hc, ih]

theorem shown_resetting (back : List Char) : Text.shown (resetting ++ back) = Text.shown back := rfl

theorem shown_setting (color : Option Color) (bold : Bool) (back : List Char) :
    Text.shown (setting color bold ++ back) = Text.shown back := by
  cases bold <;> rcases color with _ | _ | _ | _ <;> rfl

/-- Without its sequences a painted text is the other one. -/
theorem Paints.shown_eq {colored bare : List Char} (h : Paints colored bare) :
    Text.shown colored = bare := by
  induction h with
  | nil => rfl
  | @plain c colored bare hc _ ih =>
      have hfront : Unescaped [c] := by simp [Unescaped, Ne.symm hc]
      rw [← List.singleton_append, shown_append hfront, ih, List.singleton_append]
  | stretch color bold hinner _ ih =>
      rw [List.append_assoc, List.append_assoc, shown_setting, shown_append hinner,
        shown_resetting, ih]

/-! ## Pieces -/

/-- Pieces whose styles are taken back before the next one is set and before the end, and
whose texts set none. -/
inductive Paired : List Piece → Prop where
  | nil : Paired []
  | text {s : String} {rest : List Piece} (h : Unescaped s.toList) (h' : Paired rest) :
      Paired (.text s :: rest)
  | stretch (color : Option Color) (bold : Bool) {texts : List String} {rest : List Piece}
      (h : ∀ s ∈ texts, Unescaped s.toList) (h' : Paired rest) :
      Paired (.style color bold :: (texts.map .text ++ .plain :: rest))

theorem Paired.append {front back : List Piece} (h : Paired front) (h' : Paired back) :
    Paired (front ++ back) := by
  induction h with
  | nil => exact h'
  | text hs _ ih => exact .text hs ih
  | stretch color bold htexts _ ih =>
      rw [List.cons_append, List.append_assoc, List.cons_append]
      exact .stretch color bold htexts ih

theorem Paired.word {s : String} {rest : List Piece} (color : Option Color) (bold : Bool)
    (h : Unescaped s.toList) (h' : Paired rest) :
    Paired (.style color bold :: .text s :: .plain :: rest) := by
  have hone : ∀ t ∈ [s], Unescaped t.toList := List.forall_mem_singleton.mpr h
  exact .stretch color bold hone h'

theorem toList_render_plain : (Piece.render true .plain).toList = resetting := by decide

theorem toList_render_style (color : Option Color) (bold : Bool) :
    (Piece.render true (.style color bold)).toList = setting color bold := by
  cases bold <;> rcases color with _ | _ | _ | _ <;> decide

/-- What paired pieces write with colours is painted from what they write without. -/
theorem Paired.paints {pieces : List Piece} (h : Paired pieces) :
    Paints (String.join (pieces.map (Piece.render true))).toList
      (String.join (pieces.map (Piece.render false))).toList := by
  induction h with
  | nil => exact .nil
  | text hs _ ih =>
      rw [List.map_cons, List.map_cons, String.join_cons, String.join_cons, String.toList_append,
        String.toList_append]
      exact ih.append_front hs
  | @stretch color bold texts rest htexts _ ih =>
      have hinner : Unescaped (String.join texts).toList := by
        rw [Unescaped, String.toList_join, List.mem_flatMap]
        exact fun ⟨s, hs, hmem⟩ => htexts s hs hmem
      have hrender (colored : Bool) : (texts.map Piece.text).map (Piece.render colored) = texts := by
        rw [List.map_map]
        exact List.map_id texts
      simp only [List.map_cons, List.map_append, hrender, String.join_cons, String.join_append,
        String.toList_append, toList_render_style, toList_render_plain]
      have hnone : (Piece.render false (.style color bold)).toList = [] := rfl
      have hplain : (Piece.render false .plain).toList = [] := rfl
      rw [hnone, hplain, List.nil_append, List.nil_append, ← List.append_assoc, ← List.append_assoc]
      exact .stretch color bold hinner ih

end Styled

open Styled

/-! ## Listings -/

theorem Styled.on_append (stream : Stream) (front back : Styled) :
    (front ++ back).on stream = front.on stream ++ back.on stream :=
  List.filterMap_append

theorem Styled.paired_flatMap {α : Type _} {stream : Stream} {part : α → Styled} {xs : List α}
    (h : ∀ x ∈ xs, Paired ((part x).on stream)) : Paired (Styled.on stream (xs.flatMap part)) := by
  induction xs with
  | nil => exact .nil
  | cons x xs ih =>
      obtain ⟨hx, hxs⟩ := List.forall_mem_cons.mp h
      rw [List.flatMap_cons, on_append]
      exact hx.append (ih hxs)

/-- A report in which nobody writes escape characters. -/
structure Summary.Unescaped (s : Summary) (fs : FileSystem) (showDiff : Bool) : Prop where
  ids : ∀ report ∈ s.cases, GoldenFiles.Unescaped report.id.text.toList
  reasons : ∀ report ∈ s.cases, ∀ reason, report.verdict = .failed reason →
    GoldenFiles.Unescaped reason.message.toList
  paths : ∀ report ∈ s.cases, 0x1b ∉ report.artifacts.expected.bytes ∧
    0x1b ∉ report.artifacts.actual.bytes
  rejected : ∀ name ∈ s.rejected, 0x1b ∉ name.path.bytes ∧
    GoldenFiles.Unescaped name.reason.toList
  /-- Only the files of a mismatch are displayed, if differences are wanted. -/
  lines : showDiff = true → ∀ report ∈ s.cases, ∀ m, report.verdict = .failed (.mismatch m) →
    ∀ path ∈ [report.artifacts.expected, report.artifacts.actual], ∀ shown,
      fs.displayed? path = some shown → ∀ line ∈ shown, GoldenFiles.Unescaped line

theorem unescaped_display {path : Path} (h : 0x1b ∉ path.bytes) :
    Unescaped path.display.toList := by
  have hone : Utf8.encodeChar '\x1b' = [0x1b] := by decide
  rw [Unescaped, Path.display, Utf8.decodeLossy, String.toList_ofList,
    Utf8.mem_decodeLossyChars_iff hone]
  exact h

theorem unescaped_toString (n : Nat) : Unescaped (toString n).toList := by
  intro hmem
  rw [toList_toString] at hmem
  have hdigit := (Decimal.digits_digitsOf n).digits _ hmem
  exact absurd hdigit (by decide)

namespace Listing

variable {stream : Stream}

theorem paired_rejectedName {name : Rejected} (hpath : 0x1b ∉ name.path.bytes)
    (hreason : Unescaped name.reason.toList) : Paired ((rejectedName name).on stream) := by
  cases stream with
  | out => exact .nil
  | err =>
      refine .word _ _ (by decide) (.text ?_ .nil)
      simp only [String.toList_append, unescaped_append]
      exact ⟨⟨⟨⟨by decide, unescaped_display hpath⟩, by decide⟩, hreason⟩, by decide⟩

theorem paired_caseLine {report : CaseReport} (hid : Unescaped report.id.text.toList) :
    Paired ((caseLine report).on stream) := by
  cases stream with
  | err => exact .nil
  | out =>
      have hwords : ∀ word ∈ ["passed", "failed"], Unescaped word.toList := by decide
      have hlabel : Unescaped report.verdict.label.toList := by
        cases report.verdict <;> exact hwords _ (by simp [Verdict.label])
      refine .text ?_ (.word _ _ hlabel (.text (by decide) .nil))
      simp only [String.toList_append, unescaped_append]
      exact ⟨⟨by decide, hid⟩, by decide⟩

theorem paired_change {c : Change} (h : ∀ line ∈ c.lines, Unescaped line) :
    Paired ((change c).on .err) := by
  rw [on_err_change]
  refine .stretch _ _ (fun s hs => ?_) .nil
  obtain ⟨line, hline, rfl⟩ := List.mem_map.mp hs
  have hsign : Unescaped [' ', ' ', (mark c).1] := by
    cases c <;> simp [mark, Unescaped]
  rw [changedLine, String.toList_ofList, unescaped_append, unescaped_append]
  exact ⟨⟨hsign, h line hline⟩, by decide⟩

theorem paired_header (sign : String) (hsign : Unescaped sign.toList) {path : Path}
    (h : 0x1b ∉ path.bytes) {rest : List Piece} (h' : Paired rest) :
    Paired (.text (sign ++ path.display ++ "\n") :: rest) := by
  refine .text ?_ h'
  simp only [String.toList_append, unescaped_append]
  exact ⟨⟨hsign, unescaped_display h⟩, by decide⟩

theorem paired_difference {fs : FileSystem} {artifacts : Artifacts}
    (hpaths : 0x1b ∉ artifacts.expected.bytes ∧ 0x1b ∉ artifacts.actual.bytes)
    (hlines : ∀ path ∈ [artifacts.expected, artifacts.actual], ∀ shown,
      fs.displayed? path = some shown → ∀ line ∈ shown, Unescaped line) :
    Paired ((difference fs artifacts).on .err) := by
  unfold difference
  split
  · next expected actual hexpected hactual =>
      refine paired_header "  --- " (by decide) hpaths.1
        (paired_header "  +++ " (by decide) hpaths.2 (paired_flatMap fun c hc => ?_))
      refine paired_change fun line hline => ?_
      rcases Diff.mem_of_mem_changes hc hline with hmem | hmem
      · exact hlines _ (by simp) _ hexpected line hmem
      · exact hlines _ (by simp) _ hactual line hmem
  · exact .nil

theorem paired_counts (s : Summary) : Paired ((counts s).on stream) := by
  cases stream with
  | out => exact .nil
  | err =>
      have hpassed : Unescaped "passed".toList := by decide
      have hfailed : Unescaped "failed".toList := by decide
      refine .text ?_ (.word _ _ hpassed (.text ?_ (.word _ _ hfailed (.text ?_ .nil))))
      all_goals
        simp only [String.toList_append, unescaped_append]
        exact ⟨⟨by decide, unescaped_toString _⟩, by decide⟩

end Listing

namespace Summary

variable {s : Summary} {fs : FileSystem} {showDiff : Bool}

theorem Unescaped.paired_detail (h : s.Unescaped fs showDiff) {report : CaseReport}
    (hmem : report ∈ s.cases) {stream : Stream} :
    Paired ((Listing.detail fs showDiff report).on stream) := by
  cases stream with
  | out =>
      have hoff : (Listing.detail fs showDiff report).on .out = [] := by
        refine List.filterMap_eq_nil_iff.mpr fun piece hpiece => if_neg ?_
        rw [Listing.detail_on_err fs showDiff report piece hpiece]
        decide
      rw [hoff]
      exact .nil
  | err =>
      unfold Listing.detail
      split
      · exact .nil
      · next reason hverdict =>
          have hreason : GoldenFiles.Unescaped ("  " ++ reason.message ++ "\n").toList := by
            simp only [String.toList_append, unescaped_append]
            exact ⟨⟨by decide, h.reasons report hmem reason hverdict⟩, by decide⟩
          refine .text hreason ?_
          split
          · next m =>
              exact Listing.paired_difference (h.paths report hmem)
                (h.lines rfl report hmem m hverdict)
          · exact .nil

theorem Unescaped.paired_listing (h : s.Unescaped fs showDiff) (stream : Stream) :
    Paired ((s.listing fs showDiff).on stream) := by
  rw [listing, on_append, on_append]
  refine ((paired_flatMap fun name hmem => ?_).append (paired_flatMap fun report hmem => ?_)).append
    (Listing.paired_counts s)
  · obtain ⟨hpath, hreason⟩ := h.rejected name hmem
    exact Listing.paired_rejectedName hpath hreason
  · rw [on_append]
    exact (Listing.paired_caseLine (h.ids report hmem)).append (h.paired_detail hmem)

/-- With colours a report writes to each stream what it writes without them, some stretches of
it painted, each by itself. So the plain text is what is left when the sequences are deleted,
and every colour is taken back before another one is set and before the text ends. -/
theorem colors_only_decorate (h : s.Unescaped fs showDiff) (stream : Stream) :
    Text.shown ((s.listing fs showDiff).render stream true).toList =
      ((s.listing fs showDiff).render stream false).toList ∧
    Paints ((s.listing fs showDiff).render stream true).toList
      ((s.listing fs showDiff).render stream false).toList := by
  have hpaints := (h.paired_listing stream).paints
  exact ⟨hpaints.shown_eq, hpaints⟩

/-- A rejected name, a case that passed and one whose files differ. -/
def mixedSummary : Summary where
  cases :=
    [{ surplusReport with id := ⟨"0"⟩, verdict := .passed }, surplusReport]
  rejected := [⟨.ofString "f/in2", "no extension"⟩]

theorem unescaped_mixedSummary : mixedSummary.Unescaped surplusFiles true where
  ids := by decide
  reasons := by
    intro report hmem reason hreason
    rcases List.mem_pair.mp hmem with rfl | rfl
    · cases hreason
    · obtain rfl := Verdict.failed.inj hreason
      decide
  paths := by decide
  rejected := by decide
  lines := by
    intro _ report hmem m hm path hpath shown hshown
    rcases List.mem_pair.mp hmem with rfl | rfl
    · cases hm
    · have hexpected : surplusFiles.displayed? surplusReport.artifacts.expected = some [[]] := by
        decide +kernel
      have hactual : surplusFiles.displayed? surplusReport.artifacts.actual = some [['a']] := by
        decide +kernel
      rcases List.mem_pair.mp hpath with rfl | rfl
      · obtain rfl := Option.some.inj (hexpected.symm.trans hshown)
        decide
      · obtain rfl := Option.some.inj (hactual.symm.trans hshown)
        decide

theorem colors_only_decorate_example :
    mixedSummary.Unescaped surplusFiles true ∧
    Text.shown ((mixedSummary.listing surplusFiles true).render .err true).toList =
      ((mixedSummary.listing surplusFiles true).render .err false).toList ∧
    Paints ((mixedSummary.listing surplusFiles true).render .out true).toList
      "Test 0 passed.\nTest 1 failed.\n".toList := by
  refine ⟨unescaped_mixedSummary, (colors_only_decorate unescaped_mixedSummary .err).1, ?_⟩
  have hbare : (mixedSummary.listing surplusFiles true).render .out false =
      "Test 0 passed.\nTest 1 failed.\n" := by decide +kernel
  rw [← hbare]
  exact (colors_only_decorate unescaped_mixedSummary .out).2

end Summary

end GoldenFiles
