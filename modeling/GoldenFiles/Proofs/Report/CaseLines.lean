import GoldenFiles.Proofs.Report.Rendering
import GoldenFiles.Proofs.Run.Planned
import Mathlib.Algebra.GroupWithZero.Nat

/-!
# The lines of the cases

Without colour, standard output holds a sentence for every case and a line feed
behind each. The identifier stands in the sentence as it is. It has no dot, so
the first dot of the text ends the first sentence, whatever blanks and words the
identifier imitates, and what the sentences say can be read back from the text.

It takes more to make every sentence one line. An identifier may hold a line
feed, as the name of a file may, and then its sentence is broken in two: there
is one line per case just if no identifier does.
-/

namespace GoldenFiles

/-! ## Sentences -/

/-- What standard output tells about a case: which one it is, and whether it passed. -/
abbrev CaseOutcome := CaseId × Bool

namespace CaseOutcome

/-- The blank and the word behind an identifier. -/
def ending (passed : Bool) : List Char := (if passed then " passed" else " failed").toList

/-- The sentence about a case up to its dot. -/
def statement (outcome : CaseOutcome) : List Char :=
  "Test ".toList ++ (outcome.1.text.toList ++ ending outcome.2)

/-- Both words have one length, so the identifier is what is left when the word
and the blank before it are cut off. -/
theorem statement_injective : Function.Injective statement := by
  have hlength : ∀ p q, (ending p).length = (ending q).length := by decide
  have hword : ∀ p q, ending p = ending q → p = q := by decide
  rintro ⟨⟨a⟩, p⟩ ⟨⟨b⟩, q⟩ h
  obtain ⟨htext, hending⟩ := List.append_inj' (List.append_cancel_left h) (hlength p q)
  obtain rfl : a = b := String.toList_inj.mp htext
  rw [hword p q hending]

theorem dot_not_mem_statement {outcome : CaseOutcome} (h : '.' ∉ outcome.1.text.toList) :
    '.' ∉ outcome.statement := by
  have hending : ∀ passed, '.' ∉ ending passed := by decide
  unfold statement
  rw [List.mem_append, List.mem_append]
  rintro (hmem | hmem | hmem)
  · exact absurd hmem (by decide)
  · exact h hmem
  · exact hending _ hmem

theorem count_newline_statement (outcome : CaseOutcome) :
    outcome.statement.count '\n' = outcome.1.text.toList.count '\n' := by
  have htest : "Test ".toList.count '\n' = 0 := by decide
  have hending : ∀ passed, (ending passed).count '\n' = 0 := by decide
  unfold statement
  rw [List.count_append, List.count_append, htest, hending, Nat.zero_add, Nat.add_zero]

/-- The sentences about some cases, each followed by a line feed. -/
def text (outcomes : List CaseOutcome) : List Char :=
  outcomes.flatMap fun outcome => outcome.statement ++ ['.', '\n']

theorem text_cons (outcome : CaseOutcome) (outcomes : List CaseOutcome) :
    text (outcome :: outcomes) = outcome.statement ++ '.' :: '\n' :: text outcomes := by
  rw [text, List.flatMap_cons, List.append_assoc]
  rfl

/-- The first dot ends the first sentence. -/
theorem text_inj {xs ys : List CaseOutcome} (hx : ∀ o ∈ xs, '.' ∉ o.1.text.toList)
    (hy : ∀ o ∈ ys, '.' ∉ o.1.text.toList) (h : text xs = text ys) : xs = ys := by
  induction xs generalizing ys with
  | nil =>
      cases ys with
      | nil => rfl
      | cons y ys => simp [text] at h
  | cons x xs ih =>
      cases ys with
      | nil => simp [text] at h
      | cons y ys =>
          obtain ⟨hxdot, hxs⟩ := List.forall_mem_cons.mp hx
          obtain ⟨hydot, hys⟩ := List.forall_mem_cons.mp hy
          rw [text_cons, text_cons] at h
          obtain ⟨hstatement, hrest⟩ := (Scheme.append_dot_inj (dot_not_mem_statement hxdot)
            (dot_not_mem_statement hydot)).mp h
          rw [statement_injective hstatement, ih hxs hys (List.cons.inj hrest).2]

theorem count_newline_text (outcomes : List CaseOutcome) : (text outcomes).count '\n' =
    outcomes.length + (outcomes.map fun o => o.1.text.toList.count '\n').sum := by
  induction outcomes with
  | nil => rfl
  | cons o outcomes ih =>
      rw [text_cons, List.count_append, List.count_cons_of_ne (by decide), List.count_cons_self,
        ih, count_newline_statement, List.map_cons, List.sum_cons, List.length_cons]
      omega

theorem split_text {outcomes : List CaseOutcome} (h : ∀ o ∈ outcomes, '\n' ∉ o.1.text.toList) :
    Separated.split '\n' (text outcomes) =
      outcomes.map (fun o => o.statement ++ ['.']) ++ [[]] := by
  have hclosed : text outcomes =
      (outcomes.map fun o => o.statement ++ ['.']).flatMap (· ++ ['\n']) := by
    rw [text, List.flatMap_map]
    simp only [List.append_assoc, List.singleton_append]
  rw [hclosed]
  refine Separated.split_flatMap_closed fun line hline => ?_
  obtain ⟨o, ho, rfl⟩ := List.mem_map.mp hline
  rw [← List.count_eq_zero, List.count_append, count_newline_statement,
    List.count_eq_zero.mpr (h o ho)]
  decide

end CaseOutcome

/-! ## Standard output -/

/-- What a report tells on standard output. -/
def CaseReport.outcome (report : CaseReport) : CaseOutcome := (report.id, report.verdict.isPassed)

/-- The sentence about a case. -/
def CaseReport.sentence (report : CaseReport) : List Char :=
  ("Test " ++ report.id.text ++ " " ++ report.verdict.label ++ ".").toList

/-- Standard output without colour. -/
def Summary.plainOutput (s : Summary) (fs : FileSystem) (showDiff : Bool) : List Char :=
  ((s.listing fs showDiff).render .out false).toList

theorem CaseReport.sentence_eq (report : CaseReport) :
    report.sentence = report.outcome.statement ++ ['.'] := by
  have hword : (" " ++ report.verdict.label).toList = CaseOutcome.ending report.verdict.isPassed := by
    cases report.verdict <;> rfl
  unfold CaseOutcome.statement
  rw [outcome, ← hword]
  simp [sentence, String.toList_append]

theorem CaseReport.toList_caseLine (report : CaseReport) :
    ((Listing.caseLine report).render .out false).toList = report.sentence ++ ['\n'] := by
  have hpieces : (Listing.caseLine report).on .out =
      [.text ("Test " ++ report.id.text ++ " "),
        .style (some (if report.verdict.isPassed then .green else .red)) true,
        .text report.verdict.label, .plain, .text ".\n"] := rfl
  rw [Styled.render, hpieces]
  simp [Piece.render, String.toList_append, sentence]

theorem Summary.plainOutput_eq (s : Summary) (fs : FileSystem) (showDiff : Bool) :
    s.plainOutput fs showDiff = CaseOutcome.text (s.cases.map CaseReport.outcome) := by
  rw [plainOutput, Summary.render_out_listing, String.toList_join, List.flatMap_map, CaseOutcome.text,
    List.flatMap_map]
  simp only [CaseReport.toList_caseLine, CaseReport.sentence_eq, List.append_assoc]
  rfl

/-- Whether a report has one line per case depends on nothing but line feeds in
its identifiers. In any case what it says about every case can be read back. -/
theorem plain_output_lines_iff {s : Summary} (plain : ∀ report ∈ s.cases, report.id.Plain)
    (fs : FileSystem) (showDiff : Bool) :
    (Separated.split '\n' (s.plainOutput fs showDiff) =
        s.cases.map CaseReport.sentence ++ [[]] ↔
      ∀ report ∈ s.cases, '\n' ∉ report.id.text.toList) ∧
    (s.plainOutput fs showDiff).count '\n' =
      s.total + (s.cases.map fun report => report.id.text.toList.count '\n').sum ∧
    ∀ (other : Summary) (gs : FileSystem) (showOther : Bool),
      (∀ report ∈ other.cases, report.id.Plain) →
      other.plainOutput gs showOther = s.plainOutput fs showDiff →
      other.cases.map CaseReport.outcome = s.cases.map CaseReport.outcome := by
  have hcount : (s.plainOutput fs showDiff).count '\n' =
      s.total + (s.cases.map fun report => report.id.text.toList.count '\n').sum := by
    rw [Summary.plainOutput_eq, CaseOutcome.count_newline_text, List.length_map, List.map_map]
    rfl
  have hdots : ∀ t : Summary, (∀ report ∈ t.cases, report.id.Plain) →
      ∀ o ∈ t.cases.map CaseReport.outcome, '.' ∉ o.1.text.toList := by
    intro t ht o ho
    obtain ⟨report, hmem, rfl⟩ := List.mem_map.mp ho
    exact (ht report hmem).no_dot
  refine ⟨⟨fun h report hmem => ?_, fun h => ?_⟩, hcount, fun other gs showOther hother h => ?_⟩
  · have hlength := congrArg List.length h
    rw [Separated.length_split, hcount, List.length_append, List.length_map] at hlength
    have hsum : (s.cases.map fun report => report.id.text.toList.count '\n').sum = 0 := by
      simp only [Summary.total, List.length_singleton] at hlength
      omega
    rw [← List.count_eq_zero]
    exact List.sum_eq_zero_iff_forall_eq_nat.mp hsum _ (List.mem_map_of_mem hmem)
  · have hline : ∀ o ∈ s.cases.map CaseReport.outcome, '\n' ∉ o.1.text.toList := by
      intro o ho
      obtain ⟨report, hmem, rfl⟩ := List.mem_map.mp ho
      exact h report hmem
    rw [Summary.plainOutput_eq, CaseOutcome.split_text hline, List.map_map]
    congr 2
    exact funext fun report => report.sentence_eq.symm
  · rw [Summary.plainOutput_eq, Summary.plainOutput_eq] at h
    exact CaseOutcome.text_inj (hdots other hother) (hdots s plain) h

/-- One case that passed and one that did not. -/
def exampleSummary : Summary :=
  { cases :=
      [⟨⟨"1"⟩, .ofString "f/in1.py", ⟨.ofString "o/out1.txt", .ofString "f/out1.txt"⟩, .passed,
          some 0, .zero⟩,
        ⟨⟨"2"⟩, .ofString "f/in2.py", ⟨.ofString "o/out2.txt", .ofString "f/out2.txt"⟩,
          .failed (.mismatch ⟨1, 1, 2⟩), some 0, .zero⟩] }

theorem plain_output_lines_iff_example :
    (∀ report ∈ exampleSummary.cases, report.id.Plain) ∧
      Separated.split '\n' (exampleSummary.plainOutput exampleFiles true) =
        ["Test 1 passed.".toList, "Test 2 failed.".toList, []] := by
  have plain : ∀ report ∈ exampleSummary.cases, report.id.Plain := by
    intro report h
    rcases List.mem_pair.mp h with rfl | rfl
    · exact ⟨by decide, by decide, by decide⟩
    · exact ⟨by decide, by decide, by decide⟩
  refine ⟨plain, ?_⟩
  rw [(plain_output_lines_iff plain exampleFiles true).1.mpr (by decide)]
  decide

/-- An input whose name is broken over two lines. -/
def brokenName : FileSystem where
  entries :=
    [([Utf8.encode "f"], .directory), ([Utf8.encode "in1\n2.py", Utf8.encode "f"], .file [] false)]
  here := []
  distinct := by decide +kernel

/-- The report of its case, which passed. -/
def brokenReport : CaseReport :=
  ⟨⟨"1\n2"⟩, .ofString "f/in1\n2.py",
    ⟨.ofString "o/out1\n2.txt", .ofString "f/out1\n2.txt"⟩, .passed, some 0, .zero⟩

/-- The identifier of one discovered case takes two lines. -/
theorem broken_name_takes_two_lines :
    discover brokenName (.ofString "f") {} = .ok ⟨[⟨brokenReport.id, brokenReport.input⟩], []⟩ ∧
      brokenReport.id.Plain ∧
      Separated.split '\n' (Summary.plainOutput ⟨[brokenReport], []⟩ brokenName false) =
        ["Test 1".toList, "2 passed.".toList, []] ∧
      (Summary.plainOutput ⟨[brokenReport], []⟩ brokenName false).count '\n' ≠ 1 := by
  refine ⟨?_, ⟨by decide, by decide, by decide⟩, by decide, by decide⟩
  have hlist : brokenName.list (.ofString "f") = .ok
      [⟨Utf8.encode "in1\n2.py", .ofString "f/in1\n2.py", .file [] false⟩] := by decide +kernel
  have hfixtures : Discovery.fixturesIn {}
      [⟨Utf8.encode "in1\n2.py", .ofString "f/in1\n2.py", .file [] false⟩] =
        [⟨brokenReport.id, brokenReport.input⟩] := by decide +kernel
  have hrejected : Discovery.rejectedIn {}
      [⟨Utf8.encode "in1\n2.py", .ofString "f/in1\n2.py", .file [] false⟩] = [] := by
    decide +kernel
  rw [discover, hlist]
  simp only [Discovery.ofListing]
  rw [← Discovery.fixturesIn, ← Discovery.rejectedIn, hfixtures, hrejected,
    sortedBy_of_ascending (List.pairwise_singleton _ _), sortedBy_of_ascending List.Pairwise.nil]

end GoldenFiles
