import GoldenFiles.Proofs.Content.Alignment
import GoldenFiles.Proofs.Content.Display
import GoldenFiles.Proofs.Report.Rendering
import GoldenFiles.Run.Case

/-!
# Reading a printed difference

Under its two headers a difference is printed line by line, each line behind two blanks and
a sign. Its lines have no line feed of their own, so they can be told apart again, and what
stands behind the signs of one side is that side's text in full: this is `changes_faithful`
carried through the printing, change by change.

A content that is shown as an empty text is the exception. Cut at line feeds an empty text
is one blank line, and the difference takes it for none. That is right for an empty file.
But a file of one blank line is shown as an empty text too, and so it happens that two files
do not compare as equal and nothing is printed under the headers. `mismatch_marked_iff` says
that it happens in no other way.
-/

namespace GoldenFiles

open Diff (Change Line)
open Content (displayText BlankApart)

/-- The lines in which a content is shown. -/
def Content.shownLines (content : Bytes) : List Line := Separated.split '\n' (displayText content)

namespace Listing

/-! ## Lines behind signs -/

/-- A line of a difference as it is printed, up to its line feed. -/
def signed (sign : Char) (line : Line) : Line := ' ' :: ' ' :: sign :: line

/-- What stands behind one of some signs in a printed line. -/
def behind? (signs : List Char) : Line → Option Line
  | ' ' :: ' ' :: sign :: line => if sign ∈ signs then some line else none
  | _ => none

/-- The lines in which changes are printed. -/
def printed (changes : List Change) : List Line :=
  changes.flatMap fun c => c.lines.map (signed (mark c).1)

theorem mem_printed {changes : List Change} {line : Line} :
    line ∈ printed changes ↔
      ∃ c ∈ changes, ∃ shown ∈ c.lines, signed (mark c).1 shown = line := by
  simp only [printed, List.mem_flatMap, List.mem_map]

/-- Behind the signs of one side stands what the changes have on that side. -/
theorem filterMap_printed {signs : List Char} {side : Change → List Line}
    (h : ∀ c, side c = if (mark c).1 ∈ signs then c.lines else []) (changes : List Change) :
    (printed changes).filterMap (behind? signs) = changes.flatMap side := by
  rw [printed, List.filterMap_flatMap]
  congr 1
  funext c
  have hbehind : behind? signs ∘ signed (mark c).1 =
      fun shown => if (mark c).1 ∈ signs then some shown else none := rfl
  rw [h c, List.filterMap_map, hbehind]
  -- the sign is the same for all lines of a change
  split
  · exact List.filterMap_some
  · exact List.filterMap_none _

theorem old_eq (c : Change) : c.old = if (mark c).1 ∈ [' ', '-'] then c.lines else [] := by
  cases c <;> rfl

theorem new_eq (c : Change) : c.new = if (mark c).1 ∈ [' ', '+'] then c.lines else [] := by
  cases c <;> rfl

/-- Every printed line has one of three signs, and a line of either side behind it. -/
theorem exists_signed_of_mem {changes : List Change} {line : Line} (h : line ∈ printed changes) :
    ∃ sign ∈ [' ', '-', '+'], ∃ shown, (shown ∈ changes.flatMap Change.old ∨
      shown ∈ changes.flatMap Change.new) ∧ line = signed sign shown := by
  obtain ⟨c, hc, shown, hshown, rfl⟩ := mem_printed.mp h
  simp only [List.mem_flatMap]
  cases c with
  | same lines => exact ⟨' ', by decide, shown, .inl ⟨_, hc, hshown⟩, rfl⟩
  | removed lines => exact ⟨'-', by decide, shown, .inl ⟨_, hc, hshown⟩, rfl⟩
  | added lines => exact ⟨'+', by decide, shown, .inr ⟨_, hc, hshown⟩, rfl⟩

/-- A printed line that only one of the two sides has. -/
def IsMarked (line : Line) : Prop := ∃ sign ∈ ['-', '+'], ∃ shown, line = signed sign shown

/-- Without a marked line both sides are the same. -/
theorem old_eq_new_of_unmarked {changes : List Change}
    (h : ∀ line ∈ printed changes, ¬IsMarked line) :
    changes.flatMap Change.old = changes.flatMap Change.new := by
  have hnone {c : Change} (hc : c ∈ changes) (hsign : (mark c).1 ∈ ['-', '+']) : c.lines = [] := by
    refine List.eq_nil_iff_forall_not_mem.mpr fun shown hshown => ?_
    exact h _ (mem_printed.mpr ⟨c, hc, shown, hshown, rfl⟩) ⟨_, hsign, shown, rfl⟩
  refine List.flatMap_congr fun c hc => ?_
  cases c with
  | same lines => rfl
  | removed lines => exact hnone hc (by simp [mark])
  | added lines => exact (hnone hc (by simp [mark])).symm

/-! ## What is printed -/

theorem on_err_change (c : Change) : (change c).on .err =
    .style (mark c).2 false :: ((c.lines.map (changedLine (mark c).1)).map .text ++ [.plain]) := by
  simp [change, say, Styled.on, List.filterMap_map, List.filterMap_append, Function.comp_def]

theorem toList_render_change (c : Change) : ((change c).render .err false).toList =
    (c.lines.map (signed (mark c).1)).flatMap (· ++ ['\n']) := by
  rw [Styled.render, on_err_change]
  simp [Piece.render, changedLine, signed, List.flatMap_map, Function.comp_def]

theorem toList_render_changes (changes : List Change) :
    (Styled.render .err false (changes.flatMap change)).toList =
      (printed changes).flatMap (· ++ ['\n']) := by
  rw [Styled.render_flatMap, String.toList_join, List.flatMap_map, printed, List.flatMap_assoc]
  exact List.flatMap_congr fun c _ => toList_render_change c

/-- The two lines above a difference, which name the files. -/
def headers (artifacts : Artifacts) : String :=
  "  --- " ++ artifacts.expected.display ++ "\n" ++ ("  +++ " ++ artifacts.actual.display ++ "\n")

theorem mem_text_changes {changes : List Change} {s : String} :
    (Stream.err, Piece.text s) ∈ changes.flatMap change ↔
      ∃ c ∈ changes, ∃ shown ∈ c.lines, s = changedLine (mark c).1 shown := by
  simp [change, say, eq_comm]

end Listing

/-! ## The difference of two contents -/

namespace Content

theorem join_shownLines (content : Bytes) :
    Separated.join '\n' (shownLines content) = displayText content :=
  Separated.join_split '\n' (displayText content)

theorem shownLines_eq_blank_iff (content : Bytes) :
    shownLines content = [[]] ↔ displayText content = [] := by
  constructor
  · intro h
    rw [← join_shownLines, h]
    rfl
  · intro h
    rw [shownLines, h]
    rfl

/-- The changes between the lines in which two contents are shown. -/
def shownChanges (expected actual : Bytes) : List Change :=
  Diff.changes (shownLines expected) (shownLines actual)

variable (expected actual : Bytes)

theorem old_shownChanges :
    (shownChanges expected actual).flatMap Change.old = Diff.linesOf (shownLines expected) :=
  (Diff.changes_faithful _ _).1

theorem new_shownChanges :
    (shownChanges expected actual).flatMap Change.new = Diff.linesOf (shownLines actual) :=
  (Diff.changes_faithful _ _).2

/-- Every printed line has a sign and a line of one of the contents behind it. -/
theorem exists_signed_of_mem_shownChanges {line : Line}
    (h : line ∈ Listing.printed (shownChanges expected actual)) :
    ∃ sign ∈ [' ', '-', '+'], ∃ shown, (shown ∈ shownLines expected ∨ shown ∈ shownLines actual) ∧
      line = Listing.signed sign shown := by
  obtain ⟨sign, hsign, shown, hside, hline⟩ := Listing.exists_signed_of_mem h
  rw [old_shownChanges, new_shownChanges] at hside
  refine ⟨sign, hsign, shown, hside.imp (fun hmem => ?_) (fun hmem => ?_), hline⟩
  · exact (Diff.linesOf_sublist_self _).subset hmem
  · exact (Diff.linesOf_sublist_self _).subset hmem

/-- Neither has a line feed, so the printed lines are told apart by the ones that end them. -/
theorem split_render_shownChanges :
    Separated.split '\n'
        (Styled.render .err false ((shownChanges expected actual).flatMap Listing.change)).toList =
      Listing.printed (shownChanges expected actual) ++ [[]] := by
  rw [Listing.toList_render_changes]
  refine Separated.split_flatMap_closed fun line hline => ?_
  obtain ⟨sign, hsign, shown, hside, rfl⟩ := exists_signed_of_mem_shownChanges expected actual hline
  have hshown : '\n' ∉ shown := hside.elim Separated.not_mem_of_mem_split
    Separated.not_mem_of_mem_split
  have hsigns : '\n' ∉ [' ', '-', '+'] := by decide
  have hne : '\n' ≠ sign := fun h => hsigns (h ▸ hsign)
  simp [Listing.signed, hne, hshown]

end Content

/-! ## Both files are in it -/

section TwoFiles

variable {fs : FileSystem} {artifacts : Artifacts} {expected actual : Bytes}

theorem Listing.render_difference (hexpected : fs.read artifacts.expected = .ok expected)
    (hactual : fs.read artifacts.actual = .ok actual) (colored : Bool) :
    (difference fs artifacts).render .err colored = headers artifacts ++
      Styled.render .err colored ((Content.shownChanges expected actual).flatMap change) := by
  have hdifference : difference fs artifacts =
      say .err ("  --- " ++ artifacts.expected.display ++ "\n") ::
        say .err ("  +++ " ++ artifacts.actual.display ++ "\n") ::
          (Content.shownChanges expected actual).flatMap change := by
    simp only [difference, FileSystem.displayed?, hexpected, hactual]
    rfl
  rw [hdifference, render_say_cons, render_say_cons, headers]
  simp only [String.append_assoc]

/-- The printed lines with some signs are those in which a content is shown, and none if it
is empty. -/
structure Listing.Keeps (lines : List Line) (signs : List Char) (content : Bytes) : Prop where
  of_shown : displayText content ≠ [] →
    lines.filterMap (behind? signs) = Content.shownLines content
  of_empty : content = [] → lines.filterMap (behind? signs) = []

theorem Listing.keeps_of_filterMap_eq {lines : List Line} {signs : List Char} {content : Bytes}
    (h : lines.filterMap (behind? signs) = Diff.linesOf (Content.shownLines content)) :
    Keeps lines signs content := by
  refine ⟨fun hshown => ?_, fun hempty => ?_⟩
  · rw [h, Diff.linesOf, if_neg (mt (Content.shownLines_eq_blank_iff content).mp hshown)]
  · rw [h, hempty]
    rfl

/-- Whatever lines two files share, the difference that is printed of them holds the lines of
both, in order. -/
theorem difference_shows_both_files (hexpected : fs.read artifacts.expected = .ok expected)
    (hactual : fs.read artifacts.actual = .ok actual) :
    ∃ (body : String) (lines : List Line),
      (Listing.difference fs artifacts).render .err false = Listing.headers artifacts ++ body ∧
      Separated.split '\n' body.toList = lines ++ [[]] ∧
      (∀ line ∈ lines, ∃ sign ∈ [' ', '-', '+'], ∃ shown,
        (shown ∈ Content.shownLines expected ∨ shown ∈ Content.shownLines actual) ∧
          line = Listing.signed sign shown) ∧
      Listing.Keeps lines [' ', '-'] expected ∧ Listing.Keeps lines [' ', '+'] actual := by
  refine ⟨_, _, Listing.render_difference hexpected hactual false,
    Content.split_render_shownChanges expected actual,
    fun line hline => Content.exists_signed_of_mem_shownChanges expected actual hline, ?_, ?_⟩
  · refine Listing.keeps_of_filterMap_eq ?_
    rw [Listing.filterMap_printed Listing.old_eq, Content.old_shownChanges]
  · refine Listing.keeps_of_filterMap_eq ?_
    rw [Listing.filterMap_printed Listing.new_eq, Content.new_shownChanges]

/-- A directory with an expected output and one with an actual output. -/
def twoFiles (expected actual : Bytes) : FileSystem where
  entries :=
    [([Utf8.encode "f"], .directory), ([Utf8.encode "o"], .directory),
      ([Utf8.encode "out1.txt", Utf8.encode "f"], .file expected false),
      ([Utf8.encode "out1.txt", Utf8.encode "o"], .file actual false)]
  here := []
  distinct := by
    have hplaces : [[Utf8.encode "f"], [Utf8.encode "o"], [Utf8.encode "out1.txt", Utf8.encode "f"],
        [Utf8.encode "out1.txt", Utf8.encode "o"]].Nodup := by decide +kernel
    exact hplaces

/-- The report on an output with one line too many. -/
def surplusReport : CaseReport :=
  ⟨⟨"1"⟩, .ofString "f/in1.py", ⟨.ofString "o/out1.txt", .ofString "f/out1.txt"⟩,
    .failed (.mismatch ⟨1, 0, 1⟩), some 0, .zero⟩

theorem difference_shows_both_files_example :
    ∃ fs : FileSystem, fs.read surplusReport.artifacts.expected = .ok (Utf8.encode "a\n\nb") ∧
      fs.read surplusReport.artifacts.actual = .ok (Utf8.encode "\nb\nc\n") ∧
      ∃ (body : String) (lines : List Line),
        (Listing.difference fs surplusReport.artifacts).render .err false =
          Listing.headers surplusReport.artifacts ++ body ∧
        Separated.split '\n' body.toList = lines ++ [[]] ∧
        lines.filterMap (Listing.behind? [' ', '-']) = ["a".toList, [], "b".toList] ∧
        lines.filterMap (Listing.behind? [' ', '+']) = [[], "b".toList, "c".toList] := by
  have hexpected : (twoFiles (Utf8.encode "a\n\nb") (Utf8.encode "\nb\nc\n")).read
      surplusReport.artifacts.expected = .ok (Utf8.encode "a\n\nb") := by decide +kernel
  have hactual : (twoFiles (Utf8.encode "a\n\nb") (Utf8.encode "\nb\nc\n")).read
      surplusReport.artifacts.actual = .ok (Utf8.encode "\nb\nc\n") := by decide +kernel
  obtain ⟨body, lines, hbody, hlines, -, hold, hnew⟩ :=
    difference_shows_both_files hexpected hactual
  refine ⟨_, hexpected, hactual, body, lines, hbody, hlines, ?_, ?_⟩
  · exact (hold.of_shown (by decide +kernel)).trans (by decide +kernel)
  · exact (hnew.of_shown (by decide +kernel)).trans (by decide +kernel)

/-- One line where none is expected. -/
def surplusFiles : FileSystem := twoFiles [] (Utf8.encode "a\n")

/-- Beside an empty file the line of the other is added and nothing is removed, though cut at
line feeds the empty text is one blank line. -/
theorem empty_file_has_no_line :
    surplusFiles.read surplusReport.artifacts.expected = .ok [] ∧
      surplusFiles.read surplusReport.artifacts.actual = .ok (Utf8.encode "a\n") ∧
      (Listing.difference surplusFiles surplusReport.artifacts).render .err false =
        Listing.headers surplusReport.artifacts ++ "  +a\n" ∧
      Separated.split '\n' "  +a\n".toList = ["  +a".toList] ++ [[]] ∧
      ["  +a".toList].filterMap (Listing.behind? [' ', '-']) ≠ Content.shownLines [] := by
  exact ⟨by decide +kernel, by decide +kernel, by decide +kernel, by decide, by decide⟩

/-! ## A mismatch is seen -/

/-- Of texts that do not compare as equal a changed line is printed, unless one has no line and
the other a blank one. -/
theorem Content.exists_marked_iff {expected actual : Bytes} (hexpected : Utf8.IsText expected)
    (hactual : Utf8.IsText actual) (hne : compare actual expected ≠ .equal) :
    (∃ line ∈ Listing.printed (shownChanges expected actual), Listing.IsMarked line) ↔
      ¬BlankApart actual expected := by
  have hsame : displayText actual = displayText expected ↔ BlankApart actual expected := by
    rw [displayText_eq_iff hactual hexpected, or_iff_right hne]
  constructor
  · rintro ⟨line, hline, -⟩ hblank
    obtain ⟨hold, hnew⟩ := hblank.displayText_eq_nil
    rw [shownChanges, shownLines, shownLines, hold, hnew] at hline
    exact absurd hline (List.not_mem_nil)
  · intro hblank
    by_contra hmarked
    -- unmarked changes make both sides one, and a side is what its content is shown as
    have hsides := Listing.old_eq_new_of_unmarked fun line hline h => hmarked ⟨line, hline, h⟩
    rw [old_shownChanges, new_shownChanges] at hsides
    have hlines : shownLines expected = shownLines actual :=
      Diff.linesOf_inj (Separated.split_ne_nil _ _) (Separated.split_ne_nil _ _) hsides
    have htexts : displayText expected = displayText actual := by
      rw [← join_shownLines, hlines, join_shownLines]
    exact hblank (hsame.mp htexts.symm)

/-- Whether a changed line is printed does not depend on colours. -/
theorem Listing.exists_text_iff_exists_marked (changes : List Change) :
    (∃ sign ∈ ['-', '+'], ∃ shown,
      (Stream.err, Piece.text (changedLine sign shown)) ∈ changes.flatMap change) ↔
        ∃ line ∈ printed changes, IsMarked line := by
  constructor
  · rintro ⟨sign, hsign, shown, hmem⟩
    obtain ⟨c, hc, other, hother, heq⟩ := mem_text_changes.mp hmem
    have hline : signed sign shown = signed (mark c).1 other := by
      simpa [changedLine, signed] using congrArg String.toList heq
    exact ⟨_, mem_printed.mpr ⟨c, hc, other, hother, rfl⟩, sign, hsign, shown, hline.symm⟩
  · rintro ⟨line, hline, sign, hsign, shown, rfl⟩
    obtain ⟨c, hc, other, hother, heq⟩ := mem_printed.mp hline
    obtain ⟨hmark, rfl⟩ : (mark c).1 = sign ∧ other = shown := by
      simpa [signed] using heq
    exact ⟨sign, hsign, other, mem_text_changes.mpr ⟨c, hc, other, hother, by rw [hmark]⟩⟩

theorem Listing.detail_of_mismatch {report : CaseReport} {m : Content.Mismatch}
    (h : report.verdict = .failed (.mismatch m)) : detail fs true report =
      say .err ("  " ++ (FailureReason.mismatch m).message ++ "\n") ::
        difference fs report.artifacts := by
  rw [detail, h]

/-- Under a mismatching case whose files are texts stand the reason and the headers of the
difference. A changed line follows, whether there are colours or not, unless one of the files
has no line and the other a blank one: only then both are shown alike. -/
theorem mismatch_marked_iff {s : Summary} {report : CaseReport} {m : Content.Mismatch}
    (hmem : report ∈ s.cases) (hverdict : report.verdict = .failed (.mismatch m))
    (hexpected : fs.read report.artifacts.expected = .ok expected)
    (hactual : fs.read report.artifacts.actual = .ok actual)
    (expectedText : Utf8.IsText expected) (actualText : Utf8.IsText actual)
    (hdiffer : Content.compare actual expected = .differ m) :
    (displayText actual = displayText expected ↔ BlankApart actual expected) ∧
    ∃ (before body after : Styled) (lines : List Line),
      s.listing fs true = before ++ Listing.detail fs true report ++ after ∧
      (∀ colored, (Listing.detail fs true report).render .err colored =
        "  " ++ (FailureReason.mismatch m).message ++ "\n" ++
          (Listing.headers report.artifacts ++ body.render .err colored)) ∧
      ((∃ sign ∈ ['-', '+'], ∃ shown,
          (Stream.err, Piece.text (Listing.changedLine sign shown)) ∈ body) ↔
        ¬BlankApart actual expected) ∧
      Separated.split '\n' (body.render .err false).toList = lines ++ [[]] ∧
      ((∃ line ∈ lines, Listing.IsMarked line) ↔ ¬BlankApart actual expected) := by
  have hne : Content.compare actual expected ≠ .equal := by
    rw [hdiffer]
    exact Content.Comparison.noConfusion
  have hmarked := Content.exists_marked_iff expectedText actualText hne
  obtain ⟨before, after, hlisting⟩ := Summary.exists_listing_eq hmem fs true
  refine ⟨by rw [Content.displayText_eq_iff actualText expectedText, or_iff_right hne],
    before, (Content.shownChanges expected actual).flatMap Listing.change, after,
    Listing.printed (Content.shownChanges expected actual), hlisting, fun colored => ?_,
    (Listing.exists_text_iff_exists_marked _).trans hmarked,
    Content.split_render_shownChanges expected actual, hmarked⟩
  rw [Listing.detail_of_mismatch hverdict, Listing.render_say_cons,
    Listing.render_difference hexpected hactual]

/-- One line was written where none was expected. -/
theorem mismatch_marked_iff_example :
    surplusFiles.read surplusReport.artifacts.expected = .ok [] ∧
      surplusFiles.read surplusReport.artifacts.actual = .ok (Utf8.encode "a\n") ∧
      Content.compare (Utf8.encode "a\n") [] = .differ ⟨1, 0, 1⟩ ∧
      displayText (Utf8.encode "a\n") ≠ displayText [] ∧
      ∃ (before body after : Styled) (lines : List Line),
        (Summary.mk [surplusReport] []).listing surplusFiles true =
          before ++ Listing.detail surplusFiles true surplusReport ++ after ∧
        (Listing.detail surplusFiles true surplusReport).render .err true =
          "  " ++ "mismatch at line 1 (expected 0 lines, got 1)" ++ "\n" ++
            (Listing.headers surplusReport.artifacts ++ body.render .err true) ∧
        Separated.split '\n' (body.render .err false).toList = lines ++ [[]] ∧
        ∃ line ∈ lines, Listing.IsMarked line := by
  have hexpected : surplusFiles.read surplusReport.artifacts.expected = .ok [] := by decide +kernel
  have hactual : surplusFiles.read surplusReport.artifacts.actual = .ok (Utf8.encode "a\n") := by
    decide +kernel
  have hdiffer : Content.compare (Utf8.encode "a\n") [] = .differ ⟨1, 0, 1⟩ := by decide +kernel
  have hblank : ¬BlankApart (Utf8.encode "a\n") [] := by decide +kernel
  have hmem : surplusReport ∈ (Summary.mk [surplusReport] []).cases :=
    List.mem_singleton_self surplusReport
  obtain ⟨hsame, before, body, after, lines, hlisting, hdetail, -, hlines, hmarked⟩ :=
    mismatch_marked_iff hmem rfl hexpected hactual ⟨[], rfl⟩ (Utf8.isText_encode "a\n") hdiffer
  exact ⟨hexpected, hactual, hdiffer, mt hsame.mp hblank, before, body, after, lines, hlisting,
    hdetail true, hlines, hmarked.mpr hblank⟩

/-- A program writes a blank line where an empty file is expected. -/
def blankRun : CaseReport × RunState :=
  runCase (.prepared [(Utf8.encode "in1.py", .exits (some [0x0a]) (some 0))])
    ⟨surplusReport.id, surplusReport.input, surplusReport.artifacts⟩ ⟨twoFiles [] [], [], []⟩

/-- The case has failed, and the headers are followed by the counts. -/
theorem blank_line_is_not_shown :
    blankRun.1 = surplusReport ∧
      blankRun.2.files.read surplusReport.artifacts.expected = .ok [] ∧
      blankRun.2.files.read surplusReport.artifacts.actual = .ok [0x0a] ∧
      Content.compare [0x0a] [] = .differ ⟨1, 0, 1⟩ ∧
      displayText [0x0a] = displayText [] ∧
      ((Summary.mk [blankRun.1] []).listing blankRun.2.files true).render .err false =
        "  mismatch at line 1 (expected 0 lines, got 1)\n" ++
          "  --- f/out1.txt\n  +++ o/out1.txt\n" ++
          "\nTest summary: total 1, passed 0, failed 1\n" := by
  refine ⟨?_, ?_, ?_, ?_, ?_, ?_⟩ <;> decide +kernel

end TwoFiles

end GoldenFiles
