import GoldenFiles.Proofs.Report.Difference

/-!
# Lines keep their numbers

A content is decoded line by line when it is shown, and a broken character at the end of a
line could be thought to swallow the line feed behind it. It does not: the text is the one
that is read off all lines together. So a line that is shown has the number that it has among
the lines that are compared, and where a mismatch sends its reader, the printed difference has
the line that is meant.

Only the number of lines is blurred: a content without lines is shown as one blank one.
-/

namespace GoldenFiles

open Diff (Line)

namespace Content

open Utf8

/-- Decoding line by line is decoding the lines together. -/
theorem displayText_eq (content : Bytes) :
    displayText content = decodeLossyChars (Separated.join lineFeed (lines content)) :=
  (decodeLossyChars_join encodeChar_lineFeed (lines content)).symm

theorem shownLines_eq (content : Bytes) :
    shownLines content = if lines content = [] then [[]] else displayLines content := by
  rw [shownLines, displayText, Separated.split_join_eq _ fun _ => newline_not_mem_displayLines]
  simp only [displayLines_eq_nil_iff]

theorem length_shownLines (content : Bytes) :
    (shownLines content).length = max 1 (lines content).length := by
  rw [shownLines_eq]
  split
  · next h => rw [h]; rfl
  · next h =>
      have hpos := List.length_pos_iff.mpr h
      rw [displayLines, List.length_map]
      omega

/-- The lines of a text are shown as they are. -/
theorem encodeChars_displayText {content : Bytes} (h : IsText content) :
    encodeChars (displayText content) = Separated.join lineFeed (lines content) := by
  rw [displayText_eq]
  refine IsText.encodeChars_decodeLossyChars (isText_join encodeChar_lineFeed fun line hline => ?_)
  exact isText_of_mem_lines h hline

/-- What the difference takes a content for has its lines, as far as it has any. -/
theorem getElem?_lines_of_linesOf {content : Bytes} {i : Nat} {shown : Line}
    (h : (Diff.linesOf (shownLines content))[i]? = some shown) :
    (lines content)[i]?.map decodeLossyChars = some shown := by
  rw [Diff.linesOf] at h
  split at h
  · cases h
  · next hblank =>
      rw [shownLines_eq] at h hblank
      split at h
      · next hnone => exact absurd (if_pos hnone) hblank
      · rwa [displayLines, List.getElem?_map] at h

/-- A mismatch has the number of the first line that the contents do not share. -/
theorem Mismatch.Locates.first {m : Mismatch} {actual expected : List Bytes}
    (h : m.Locates actual expected) (hne : actual ≠ expected) : ∃ i, m.line = i + 1 ∧
      actual[i]? ≠ expected[i]? ∧ ∀ j < i, actual[j]? = expected[j]? := by
  obtain ⟨common, ⟨more, rfl⟩, ⟨more', rfl⟩, hlongest, hline⟩ := h.line_eq
  refine ⟨common.length, by omega, fun heq => ?_, fun j hj => ?_⟩
  · rw [List.getElem?_append_right (Nat.le_refl _), List.getElem?_append_right (Nat.le_refl _),
      Nat.sub_self] at heq
    cases more with
    | nil =>
        cases more' with
        | nil => exact hne rfl
        | cons line' more' => cases heq
    | cons line more =>
        cases more' with
        | nil => cases heq
        | cons line' more' =>
            obtain rfl := Option.some.inj heq
            have hle := (hlongest (common ++ [line]) ⟨more, by simp⟩ ⟨more', by simp⟩).length_le
            rw [List.length_append, List.length_singleton] at hle
            omega
  · rw [List.getElem?_append_left hj, List.getElem?_append_left hj]

end Content

/-- The printed lines of one side of a difference have the numbers of the lines of a content,
and are all of them if anything of the content is seen. -/
structure Listing.Numbers (side : List Line) (content : Bytes) : Prop where
  line : ∀ (i : Nat) (shown : Line), side[i]? = some shown →
    (Content.lines content)[i]?.map Utf8.decodeLossyChars = some shown
  all : Content.displayText content ≠ [] → side = Content.displayLines content

theorem Listing.numbers_of_filterMap_eq {lines : List Line} {signs : List Char} {content : Bytes}
    (h : lines.filterMap (behind? signs) = Diff.linesOf (Content.shownLines content)) :
    Numbers (lines.filterMap (behind? signs)) content := by
  refine ⟨fun i shown hshown => ?_, fun hseen => ?_⟩
  · rw [h] at hshown
    exact Content.getElem?_lines_of_linesOf hshown
  · rw [(keeps_of_filterMap_eq h).of_shown hseen, Content.shownLines_eq, if_neg]
    intro hnone
    rw [Content.displayText_eq, hnone] at hseen
    exact hseen rfl

/-- The text that a content is shown as can be read off its lines together, whatever they are
made of: one character where one stands, and one mark for each broken part. It is cut into the
lines again, or into a blank one if there are none, and the number that a mismatch gives is
good for both sides of the printed difference. Of a text nothing is changed but the ends of
its lines. -/
theorem display_keeps_lines (content : Bytes) :
    Content.displayText content =
      Utf8.decodeLossyChars (Separated.join Content.lineFeed (Content.lines content)) ∧
    (∀ text, Utf8.Shows (Separated.join Content.lineFeed (Content.lines content)) text ↔
      text = Content.displayText content) ∧
    (∀ line ∈ Content.displayLines content, '\n' ∉ line) ∧
    Separated.split '\n' (Content.displayText content) =
      (if Content.lines content = [] then [[]]
        else (Content.lines content).map Utf8.decodeLossyChars) ∧
    (Separated.split '\n' (Content.displayText content)).length =
      max 1 (Content.lines content).length ∧
    (Utf8.IsText content → Utf8.encodeChars (Content.displayText content) =
      Separated.join Content.lineFeed (Content.lines content)) ∧
    ∀ {fs : FileSystem} {artifacts : Artifacts} {expected : Bytes} {m : Content.Mismatch},
      fs.read artifacts.expected = .ok expected → fs.read artifacts.actual = .ok content →
      Content.compare content expected = .differ m →
      (∃ i, m.line = i + 1 ∧ (Content.lines content)[i]? ≠ (Content.lines expected)[i]? ∧
        ∀ j < i, (Content.lines content)[j]? = (Content.lines expected)[j]?) ∧
      ∃ (body : String) (lines : List Line),
        (Listing.difference fs artifacts).render .err false = Listing.headers artifacts ++ body ∧
        Separated.split '\n' body.toList = lines ++ [[]] ∧
        Listing.Numbers (lines.filterMap (Listing.behind? [' ', '-'])) expected ∧
        Listing.Numbers (lines.filterMap (Listing.behind? [' ', '+'])) content := by
  refine ⟨Content.displayText_eq content, fun text => ?_,
    fun _ => Content.newline_not_mem_displayLines, Content.shownLines_eq content,
    Content.length_shownLines content, Content.encodeChars_displayText, ?_⟩
  · rw [Content.displayText_eq]
    exact Utf8.shows_iff _ _
  · intro fs artifacts expected m hexpected hactual hdiffer
    have hne : Content.lines content ≠ Content.lines expected := by
      rw [ne_eq, ← Content.compare_eq_equal_iff, hdiffer]
      exact Content.Comparison.noConfusion
    refine ⟨?_, _, _, Listing.render_difference hexpected hactual false,
      Content.split_render_shownChanges expected content, ?_, ?_⟩
    · rw [Content.compare_eq, if_neg hne] at hdiffer
      obtain rfl := Content.Comparison.differ.inj hdiffer
      exact (Content.locates_mismatchOf hne).first hne
    · refine Listing.numbers_of_filterMap_eq ?_
      rw [Listing.filterMap_printed Listing.old_eq, Content.old_shownChanges]
    · refine Listing.numbers_of_filterMap_eq ?_
      rw [Listing.filterMap_printed Listing.new_eq, Content.new_shownChanges]

/-- A character is broken off before the end of a line, carriage return and all, and the byte
that could have completed it begins the next line. -/
def tornContent : Bytes := [0x61, 0x0a, 0xe2, 0x82, 0x0d, 0x0a, 0xac, 0x0a]

theorem display_keeps_lines_example :
    Content.displayText tornContent = ['a', '\n', '\uFFFD', '\n', '\uFFFD'] ∧
    Utf8.IsText (Utf8.encode "a\né\r\n") ∧
    Utf8.encodeChars (Content.displayText (Utf8.encode "a\né\r\n")) =
      Separated.join Content.lineFeed [Utf8.encode "a", Utf8.encode "é"] ∧
    ∃ fs : FileSystem, fs.read surplusReport.artifacts.expected = .ok (Utf8.encode "a\né\r\n") ∧
      fs.read surplusReport.artifacts.actual = .ok tornContent ∧
      Content.compare tornContent (Utf8.encode "a\né\r\n") = .differ ⟨2, 2, 3⟩ ∧
      ∃ (body : String) (lines : List Line),
        (Listing.difference fs surplusReport.artifacts).render .err false =
          Listing.headers surplusReport.artifacts ++ body ∧
        Separated.split '\n' body.toList = lines ++ [[]] ∧
        (lines.filterMap (Listing.behind? [' ', '-']))[1]? = some ['é'] ∧
        (lines.filterMap (Listing.behind? [' ', '+']))[1]? = some ['\uFFFD'] := by
  have htext := Utf8.isText_encode "a\né\r\n"
  have hexpected : (twoFiles (Utf8.encode "a\né\r\n") tornContent).read
      surplusReport.artifacts.expected = .ok (Utf8.encode "a\né\r\n") := by decide +kernel
  have hactual : (twoFiles (Utf8.encode "a\né\r\n") tornContent).read
      surplusReport.artifacts.actual = .ok tornContent := by decide +kernel
  have hdiffer : Content.compare tornContent (Utf8.encode "a\né\r\n") = .differ ⟨2, 2, 3⟩ := by
    decide +kernel
  obtain ⟨hdisplay, -, -, -, -, -, hfiles⟩ := display_keeps_lines tornContent
  obtain ⟨-, -, -, -, -, hunchanged, -⟩ := display_keeps_lines (Utf8.encode "a\né\r\n")
  obtain ⟨-, body, lines, hbody, hlines, hold, hnew⟩ := hfiles hexpected hactual hdiffer
  refine ⟨hdisplay.trans (by decide +kernel), htext, (hunchanged htext).trans (by decide +kernel),
    _, hexpected, hactual, hdiffer, body, lines, hbody, hlines, ?_, ?_⟩
  · rw [hold.all (by decide +kernel)]
    decide +kernel
  · rw [hnew.all (by decide +kernel)]
    decide +kernel

end GoldenFiles
