import GoldenFiles.Proofs.Content.Comparison
import GoldenFiles.Proofs.Content.Lines
import GoldenFiles.Proofs.Text.Lossy

/-!
# What the displayed text tells of a content

Contents are compared by their lines, and shown as one text into which the lines are
joined. Of a content that is text the lines are shown as they are, so whatever differs in
a line differs in what is shown. But joining forgets how many lines there are where all of
them are blank and at most one: no line at all and a single blank one are shown alike.
`displayText_eq_iff` says that nothing else is lost.
-/

namespace GoldenFiles.Content

open Utf8

theorem encodeChar_lineFeed : encodeChar '\n' = [lineFeed] := by decide

theorem encodeChar_carriageReturn : encodeChar '\r' = [carriageReturn] := by decide

/-- One content has no line, and the other has a single one, which is blank. -/
def BlankApart (a b : Bytes) : Prop :=
  lines a = [] ∧ lines b = [[]] ∨ lines a = [[]] ∧ lines b = []

instance (a b : Bytes) : Decidable (BlankApart a b) := inferInstanceAs (Decidable (_ ∨ _))

theorem BlankApart.displayText_eq_nil {a b : Bytes} (h : BlankApart a b) :
    displayText b = [] ∧ displayText a = [] := by
  have hblank {content : Bytes} (hlines : lines content = [] ∨ lines content = [[]]) :
      displayText content = [] := by
    rcases hlines with hlines | hlines <;> rw [displayText, displayLines, hlines] <;> rfl
  rcases h with ⟨ha, hb⟩ | ⟨ha, hb⟩
  · exact ⟨hblank (.inr hb), hblank (.inl ha)⟩
  · exact ⟨hblank (.inl hb), hblank (.inr ha)⟩

theorem isText_of_mem_lines {content line : Bytes} (h : IsText content)
    (hmem : line ∈ lines content) : IsText line := by
  by_cases hne : content = []
  · rw [hne] at hmem
    cases hmem
  · rw [lines_of_ne_nil hne] at hmem
    obtain ⟨piece, hpiece, rfl⟩ := List.mem_map.mp hmem
    have htext := (h.dropFinal encodeChar_lineFeed).of_mem_split encodeChar_lineFeed hpiece
    exact htext.dropFinal encodeChar_carriageReturn

/-- The lines of a text are shown as they are. -/
theorem map_encodeChars_displayLines {content : Bytes} (h : IsText content) :
    (displayLines content).map encodeChars = lines content := by
  rw [displayLines, List.map_map]
  conv_rhs => rw [← List.map_id (lines content)]
  refine List.map_congr_left fun line hline => ?_
  exact (isText_of_mem_lines h hline).encodeChars_decodeLossyChars

theorem newline_not_mem_displayLines {content : Bytes} {line : List Char}
    (hmem : line ∈ displayLines content) : '\n' ∉ line := by
  obtain ⟨bytes, hbytes, rfl⟩ := List.mem_map.mp hmem
  rw [mem_decodeLossyChars_iff encodeChar_lineFeed]
  exact not_mem_of_mem_lines hbytes

theorem displayLines_eq_iff {a : Bytes} (h : IsText a) (shown : List (List Char)) :
    displayLines a = shown ↔ lines a = shown.map encodeChars := by
  rw [← map_encodeChars_displayLines h]
  refine (List.map_inj_right fun s t hst => ?_).symm
  rw [← decodeLossyChars_encodeChars s, hst, decodeLossyChars_encodeChars]

theorem displayLines_inj {a b : Bytes} (ha : IsText a) (hb : IsText b) :
    displayLines a = displayLines b ↔ lines a = lines b := by
  rw [displayLines_eq_iff ha, map_encodeChars_displayLines hb]

theorem displayLines_eq_nil_iff (a : Bytes) : displayLines a = [] ↔ lines a = [] :=
  List.map_eq_nil_iff

/-- Texts are shown alike just if they compare as equal, or if one of them has no line and
the other a blank one. -/
theorem displayText_eq_iff {a b : Bytes} (ha : IsText a) (hb : IsText b) :
    displayText a = displayText b ↔ compare a b = .equal ∨ BlankApart a b := by
  have hblank : encodeChars [] = [] := rfl
  rw [displayText, displayText, Separated.join_eq_join_iff '\n'
    (fun _ => newline_not_mem_displayLines) (fun _ => newline_not_mem_displayLines),
    displayLines_inj ha hb, displayLines_eq_nil_iff, displayLines_eq_nil_iff,
    displayLines_eq_iff ha, displayLines_eq_iff hb, List.map_singleton, hblank,
    compare_eq_equal_iff, BlankApart]

end GoldenFiles.Content
