import GoldenFiles.Report.Listing

/-!
# What a report writes to each stream

Rendering looks at the pieces one by one, so the text of a report on a stream is
made of the texts of its parts in order, and a part that stays off the stream
adds nothing. Of the parts of a listing the line of a case is on standard output
alone, and everything else is on the error stream alone.
-/

namespace GoldenFiles

namespace Styled

variable (stream : Stream) (colored : Bool)

@[simp] theorem render_nil : Styled.render stream colored [] = "" := rfl

theorem render_append (front back : Styled) :
    (front ++ back).render stream colored =
      front.render stream colored ++ back.render stream colored := by
  rw [render, on, List.filterMap_append, List.map_append, String.join_append]
  rfl

theorem render_flatMap {α : Type _} (part : α → Styled) (xs : List α) :
    Styled.render stream colored (xs.flatMap part) =
      String.join (xs.map fun x => (part x).render stream colored) := by
  induction xs with
  | nil => rfl
  | cons x xs ih =>
      rw [List.flatMap_cons, render_append, ih, List.map_cons, String.join_cons]

theorem render_of_off {report : Styled} (h : ∀ piece ∈ report, piece.1 ≠ stream) :
    report.render stream colored = "" := by
  have hon : report.on stream = [] := by
    rw [on, List.filterMap_eq_nil_iff]
    exact fun piece hmem => if_neg (h piece hmem)
  rw [render, hon]
  rfl

end Styled

namespace Listing

variable (fs : FileSystem) (showDiff colored : Bool)

theorem change_on_err (c : Diff.Change) : ∀ piece ∈ change c, piece.1 = .err := by
  intro piece h
  simp only [change, say, List.cons_append, List.mem_cons, List.mem_append, List.mem_map,
    List.not_mem_nil, or_false] at h
  rcases h with rfl | ⟨line, -, rfl⟩ | rfl <;> rfl

theorem difference_on_err (artifacts : Artifacts) :
    ∀ piece ∈ difference fs artifacts, piece.1 = .err := by
  intro piece h
  unfold difference at h
  split at h
  · simp only [say, List.mem_cons, List.mem_flatMap] at h
    rcases h with rfl | rfl | ⟨c, -, hc⟩
    · rfl
    · rfl
    · exact change_on_err c piece hc
  · cases h

theorem detail_on_err (report : CaseReport) :
    ∀ piece ∈ detail fs showDiff report, piece.1 = .err := by
  intro piece h
  unfold detail at h
  split at h
  · cases h
  · rcases List.mem_cons.mp h with rfl | h
    · rfl
    · split at h
      · exact difference_on_err fs _ piece h
      · cases h

@[simp] theorem render_out_detail (report : CaseReport) :
    (detail fs showDiff report).render .out colored = "" := by
  refine Styled.render_of_off _ _ fun piece h => ?_
  rw [detail_on_err fs showDiff report piece h]
  decide

@[simp] theorem render_out_rejectedName (rejected : Rejected) :
    (rejectedName rejected).render .out colored = "" := rfl

@[simp] theorem render_out_counts (s : Summary) : (counts s).render .out colored = "" := rfl

end Listing

/-- A word in bold letters of a colour, if colours are shown. -/
def Color.paint (color : Color) (colored : Bool) (word : String) : String :=
  if colored then
    Piece.escape "0" ++ Piece.escape "1" ++ Piece.escape color.selector ++ word ++
      Piece.escape "0"
  else word

/-- The line of counts that ends the error stream. -/
def Summary.closing (s : Summary) (colored : Bool) : String :=
  "\nTest summary: total " ++ toString s.total ++ ", " ++ Color.green.paint colored "passed" ++
    " " ++ toString s.passed ++ ", " ++ Color.red.paint colored "failed" ++ " " ++
    toString s.failed ++ "\n"

theorem Listing.render_say_cons (stream : Stream) (colored : Bool) (text : String)
    (rest : Styled) : Styled.render stream colored (say stream text :: rest) =
      text ++ rest.render stream colored := by
  have hon : Styled.on stream (say stream text :: rest) = .text text :: rest.on stream :=
    List.filterMap_cons_some (if_pos rfl)
  rw [Styled.render, hon, List.map_cons, String.join_cons]
  rfl

theorem Listing.render_err_emphasize (color : Color) (colored : Bool) (word : String) :
    (emphasize .err color word).render .err colored = color.paint colored word := by
  have hon : (emphasize .err color word).on .err =
      [.style (some color) true, .text word, .plain] := rfl
  rw [Styled.render, hon, Color.paint]
  cases colored <;> simp [Piece.render, String.append_assoc]

theorem Listing.render_err_counts (s : Summary) (colored : Bool) :
    (counts s).render .err colored = s.closing colored := by
  unfold counts Summary.closing
  simp only [List.cons_append, Styled.render_append, render_say_cons, render_err_emphasize,
    Styled.render_nil, String.append_assoc, String.append_empty]

/-- The error stream ends with the line of counts. -/
theorem Summary.exists_render_err_listing (s : Summary) (fs : FileSystem)
    (showDiff colored : Bool) : ∃ before,
      (s.listing fs showDiff).render .err colored = before ++ s.closing colored := by
  rw [Summary.listing, Styled.render_append, Listing.render_err_counts]
  exact ⟨_, rfl⟩

/-- What is told about a case stands in the listing in one piece. -/
theorem Summary.exists_listing_eq {s : Summary} {report : CaseReport} (h : report ∈ s.cases)
    (fs : FileSystem) (showDiff : Bool) : ∃ before after,
      s.listing fs showDiff = before ++ Listing.detail fs showDiff report ++ after := by
  obtain ⟨front, back, hcases⟩ := List.append_of_mem h
  refine ⟨s.rejected.flatMap Listing.rejectedName ++ front.flatMap (fun other =>
      Listing.caseLine other ++ Listing.detail fs showDiff other) ++ Listing.caseLine report,
    back.flatMap (fun other => Listing.caseLine other ++ Listing.detail fs showDiff other) ++
      Listing.counts s, ?_⟩
  rw [listing, hcases, List.flatMap_append, List.flatMap_cons]
  simp only [List.append_assoc]

/-- Standard output gets the lines of the cases and nothing else. -/
theorem Summary.render_out_listing (s : Summary) (fs : FileSystem) (showDiff colored : Bool) :
    (s.listing fs showDiff).render .out colored =
      String.join (s.cases.map fun report => (Listing.caseLine report).render .out colored) := by
  have hrejected : Styled.render .out colored (s.rejected.flatMap Listing.rejectedName) = "" := by
    rw [Styled.render_flatMap]
    induction s.rejected with
    | nil => rfl
    | cons rejected rest ih =>
        rw [List.map_cons, String.join_cons, ih, Listing.render_out_rejectedName]
        rfl
  rw [Summary.listing, Styled.render_append, Styled.render_append, hrejected,
    Styled.render_flatMap, Listing.render_out_counts, String.append_empty, String.empty_append]
  simp only [Styled.render_append, Listing.render_out_detail, String.append_empty]

end GoldenFiles
