import GoldenFiles.Proofs.Content.Comparison
import GoldenFiles.Proofs.Content.Lines

/-!
# No edit of one byte goes unnoticed

A line loses one carriage return and a content its last line feed, so an edit
that touches these two bytes can leave the lines as they were. An edit of any
other byte cannot, wherever it is made: next to a carriage return that counts only
after the edit, behind the last line feed, in an empty content. `compare_edit`
says more, namely that the mismatch points at the line in which the edit was made.

An edit has a content before it and one behind it that it leaves alone, and what
it changes is at most one byte on each side (`Edit.exists_split`). The lines that
end before it are the same on both sides, one for each line feed, and what is
left to show is that the next line differs. It does so even if the one side has
no next line.
-/

namespace GoldenFiles.Content

open Separated

/-- A byte that can neither end a line nor be dropped from its end. -/
def Inner (byte : UInt8) : Prop := byte ≠ carriageReturn ∧ byte ≠ lineFeed

instance (byte : UInt8) : Decidable (Inner byte) := inferInstanceAs (Decidable (_ ∧ _))

/-- A change of one byte. Positions are counted from zero. -/
inductive Edit where
  /-- The byte comes to stand at the position. -/
  | insert (position : Nat) (byte : UInt8)
  | delete (position : Nat)
  | replace (position : Nat) (byte : UInt8)
  deriving DecidableEq, Repr

namespace Edit

/-- Where an edit is made. -/
def position : Edit → Nat
  | insert position _ | delete position | replace position _ => position

/-- The content after an edit. -/
def apply : Edit → Bytes → Bytes
  | insert position byte, content => content.insertIdx position byte
  | delete position, content => content.eraseIdx position
  | replace position byte, content => content.set position byte

/-- An edit within a content that changes an inner byte, and to no other than an
inner byte. -/
def Fits : Edit → Bytes → Prop
  | insert position byte, content => position ≤ content.length ∧ Inner byte
  | delete position, content => ∃ byte, content[position]? = some byte ∧ Inner byte
  | replace position byte, content =>
      Inner byte ∧ ∃ old, content[position]? = some old ∧ Inner old ∧ byte ≠ old

theorem insertIdx_length (before after : Bytes) (byte : UInt8) :
    (before ++ after).insertIdx before.length byte = before ++ byte :: after := by
  induction before with
  | nil => rfl
  | cons first before ih => rw [List.cons_append, List.length_cons, List.insertIdx_succ_cons, ih]; rfl

/-- What an edit leaves alone on its two sides, and what stands between them after
it and before it. -/
theorem exists_split {edit : Edit} {content : Bytes} (h : edit.Fits content) :
    ∃ (before after : Bytes) (new old : Option UInt8), before.length = edit.position ∧
      edit.apply content = before ++ (new.toList ++ after) ∧
      content = before ++ (old.toList ++ after) ∧
      (∀ byte ∈ new, Inner byte) ∧ (∀ byte ∈ old, Inner byte) ∧ new ≠ old := by
  have hcut {position : Nat} {byte : UInt8} (hat : content[position]? = some byte) :
      ∃ before after, before.length = position ∧ content = before ++ byte :: after := by
    obtain ⟨hlt, rfl⟩ := List.getElem?_eq_some_iff.mp hat
    refine ⟨content.take position, content.drop (position + 1), ?_, ?_⟩
    · rw [List.length_take, Nat.min_eq_left hlt.le]
    · rw [← List.drop_eq_getElem_cons hlt, List.take_append_drop]
  cases edit with
  | insert position byte =>
      obtain ⟨hposition, hbyte⟩ := h
      have hlength : (content.take position).length = position := by
        rw [List.length_take, Nat.min_eq_left hposition]
      have hinsert := insertIdx_length (content.take position) (content.drop position) byte
      rw [List.take_append_drop, hlength] at hinsert
      exact ⟨content.take position, content.drop position, some byte, none, hlength, hinsert,
        (List.take_append_drop _ _).symm, by simpa using hbyte, by simp, by simp⟩
  | delete position =>
      obtain ⟨byte, hat, hbyte⟩ := h
      obtain ⟨before, after, rfl, rfl⟩ := hcut hat
      refine ⟨before, after, none, some byte, rfl, ?_, rfl, by simp, by simpa using hbyte, by simp⟩
      rw [apply, List.eraseIdx_append_of_length_le (Nat.le_refl _), Nat.sub_self]
      rfl
  | replace position byte =>
      obtain ⟨hbyte, old, hat, hold, hne⟩ := h
      obtain ⟨before, after, rfl, rfl⟩ := hcut hat
      refine ⟨before, after, some byte, some old, rfl, ?_, rfl, by simpa using hbyte,
        by simpa using hold, by simpa using hne⟩
      rw [apply, List.set_append_right _ _ (Nat.le_refl _), Nat.sub_self]
      rfl

end Edit

/-! ## The line of a position -/

/-- The lines that end before a position, and the beginning of the next one. -/
theorem exists_front_and_line (before : Bytes) : ∃ front line, before = front ++ line ∧
    (front = [] ∨ front.getLast? = some lineFeed) ∧ lineFeed ∉ line := by
  induction before using List.reverseRecOn with
  | nil => exact ⟨[], [], rfl, .inl rfl, List.not_mem_nil⟩
  | append_singleton before byte ih =>
      by_cases hbyte : byte = lineFeed
      · refine ⟨before ++ [byte], [], (List.append_nil _).symm, .inr ?_, List.not_mem_nil⟩
        rw [List.getLast?_concat, hbyte]
      · obtain ⟨front, line, rfl, hfront, hline⟩ := ih
        refine ⟨front, line ++ [byte], List.append_assoc .., hfront, ?_⟩
        simp [hline, Ne.symm hbyte]

/-- The rest of the line at a position, and what follows it. -/
theorem exists_tail_and_rest (after : Bytes) : ∃ tail rest, after = tail ++ rest ∧
    lineFeed ∉ tail ∧ (rest = [] ∨ ∃ more, rest = lineFeed :: more) := by
  induction after with
  | nil => exact ⟨[], [], rfl, List.not_mem_nil, .inl rfl⟩
  | cons byte after ih =>
      by_cases hbyte : byte = lineFeed
      · exact ⟨[], byte :: after, rfl, List.not_mem_nil, .inr ⟨after, by rw [hbyte]⟩⟩
      · obtain ⟨tail, rest, rfl, htail, hrest⟩ := ih
        exact ⟨byte :: tail, rest, rfl, by simp [htail, Ne.symm hbyte], hrest⟩

/-- There is one line for each line feed. -/
theorem length_lines_of_terminated {front : Bytes}
    (h : front = [] ∨ front.getLast? = some lineFeed) :
    (lines front).length = front.count lineFeed := by
  rcases h with rfl | h
  · rfl
  · obtain ⟨init, rfl⟩ := List.getLast?_eq_some_iff.mp h
    rw [lines_terminated, List.length_map, length_split, List.count_append, List.count_singleton_self]

/-- The first line, if there is one, ends at the first line feed. -/
theorem head?_lines {line rest : Bytes} (h : lineFeed ∉ line)
    (hrest : rest = [] ∨ ∃ more, rest = lineFeed :: more) :
    (lines (line ++ rest)).head? =
      if line = [] ∧ rest = [] then none else some (dropFinal carriageReturn line) := by
  rcases hrest with rfl | ⟨more, rfl⟩
  · rw [List.append_nil]
    by_cases hne : line = []
    · simp [hne]
    · rw [lines_of_not_mem hne h, if_neg (by simp [hne])]
      rfl
  · have hterminated : (line ++ [lineFeed]).getLast? = some lineFeed := List.getLast?_concat
    rw [List.append_cons, lines_append (.inr hterminated), lines_terminated, split_of_not_mem h,
      if_neg (by simp)]
    rfl

/-! ## Lines that differ -/

theorem dropFinal_inner {line : Bytes} {byte : UInt8} (h : Inner byte) :
    dropFinal carriageReturn (line ++ [byte]) = line ++ [byte] := by
  refine dropFinal_of_ne ?_
  rw [List.getLast?_concat]
  exact fun heq => h.1 (Option.some.inj heq)

theorem length_dropFinal_le (x : UInt8) (line : Bytes) : (dropFinal x line).length ≤ line.length := by
  unfold dropFinal
  split
  · simp
  · exact Nat.le_refl _

/-- A line with an inner byte in a place is not the line with another one or none
there, whatever is dropped from their ends. -/
theorem dropFinal_ne {new old : Option UInt8} (line tail : Bytes) (hnew : ∀ byte ∈ new, Inner byte)
    (hold : ∀ byte ∈ old, Inner byte) (hne : new ≠ old) :
    dropFinal carriageReturn (line ++ (new.toList ++ tail)) ≠
      dropFinal carriageReturn (line ++ (old.toList ++ tail)) := by
  rw [← List.append_assoc, ← List.append_assoc]
  by_cases htail : tail = []
  · subst htail
    rw [List.append_nil, List.append_nil]
    have hshort := length_dropFinal_le carriageReturn line
    cases new with
    | none =>
        cases old with
        | none => exact absurd rfl hne
        | some byte =>
            intro heq
            rw [Option.toList_some, dropFinal_inner (hold byte rfl)] at heq
            have := congrArg List.length heq
            simp at this
            omega
    | some byte =>
        rw [Option.toList_some, dropFinal_inner (hnew byte rfl)]
        cases old with
        | none =>
            intro heq
            have := congrArg List.length heq
            simp at this
            omega
        | some other =>
            rw [Option.toList_some, dropFinal_inner (hold other rfl)]
            simpa using hne
  · rw [dropFinal_append _ htail, dropFinal_append _ htail]
    intro heq
    have hlists := List.append_cancel_left (List.append_cancel_right heq)
    exact hne (by cases new <;> cases old <;> simp_all)

theorem commonPrefix_append {α : Type _} [DecidableEq α] (front xs ys : List α) :
    commonPrefix (front ++ xs) (front ++ ys) = front ++ commonPrefix xs ys := by
  induction front with
  | nil => rfl
  | cons x front ih =>
      rw [List.cons_append, List.cons_append, commonPrefix, if_pos rfl, ih, List.cons_append]

theorem commonPrefix_of_head?_ne {α : Type _} [DecidableEq α] {xs ys : List α}
    (h : xs.head? ≠ ys.head?) : commonPrefix xs ys = [] := by
  match xs, ys with
  | [], _ => rfl
  | _ :: _, [] => rfl
  | x :: xs, y :: ys =>
      have hxy : x ≠ y := fun heq => h (congrArg some heq)
      rw [commonPrefix, if_neg hxy]

/-- Contents that are alike up to a line and differ in the first line after it. -/
theorem compare_of_head?_ne {front actual expected : Bytes}
    (hfront : front = [] ∨ front.getLast? = some lineFeed)
    (h : (lines actual).head? ≠ (lines expected).head?) :
    ∃ m, compare (front ++ actual) (front ++ expected) = .differ m ∧
      m.line = 1 + front.count lineFeed := by
  have hne : lines (front ++ actual) ≠ lines (front ++ expected) := by
    rw [lines_append hfront, lines_append hfront]
    exact fun heq => h (congrArg List.head? (List.append_cancel_left heq))
  refine ⟨_, by rw [compare_eq, if_neg hne], ?_⟩
  rw [mismatchOf, lines_append hfront, lines_append hfront, commonPrefix_append,
    commonPrefix_of_head?_ne h, List.append_nil, length_lines_of_terminated hfront, Nat.add_comm]

/-- An edit of one inner byte is a mismatch at the line in which it is made. -/
theorem compare_edit {edit : Edit} {content : Bytes} (h : edit.Fits content) :
    ∃ m, compare (edit.apply content) content = .differ m ∧
      m.line = 1 + (content.take edit.position).count lineFeed := by
  obtain ⟨before, after, new, old, hposition, hnew, rfl, hinner, hinner', hne⟩ :=
    Edit.exists_split h
  obtain ⟨front, line, rfl, hfront, hline⟩ := exists_front_and_line before
  obtain ⟨tail, rest, rfl, htail, hrest⟩ := exists_tail_and_rest after
  have hfree (piece : Option UInt8) (hpiece : ∀ byte ∈ piece, Inner byte) :
      lineFeed ∉ line ++ (piece.toList ++ tail) := by
    have hno : lineFeed ∉ piece := fun hmem => (hpiece lineFeed hmem).2 rfl
    simpa [hline, htail] using hno
  have hlines := dropFinal_ne line tail hinner hinner' hne
  have hhead : (lines ((line ++ (new.toList ++ tail)) ++ rest)).head? ≠
      (lines ((line ++ (old.toList ++ tail)) ++ rest)).head? := by
    rw [head?_lines (hfree new hinner) hrest, head?_lines (hfree old hinner') hrest]
    split
    · next hnil =>
        -- one side has no line left; then the other one has the byte
        rw [if_neg fun hnil' => hlines (by rw [hnil.1, hnil'.1])]
        exact (Option.some_ne_none _).symm
    · split
      · exact Option.some_ne_none _
      · exact fun heq => hlines (Option.some.inj heq)
  obtain ⟨m, hm, hat⟩ := compare_of_head?_ne hfront hhead
  refine ⟨m, ?_, ?_⟩
  · rw [hnew]
    simpa only [List.append_assoc] using hm
  · have hcount : line.count lineFeed = 0 := List.count_eq_zero.mpr hline
    rw [hat, List.take_left' hposition, List.count_append, hcount, Nat.add_zero]

/-- A byte behind a carriage return at the end, which then belongs to the line. -/
theorem compare_edit_example : (Edit.insert 4 98).Fits [97, 10, 97, 13] ∧
    ∃ m, compare [97, 10, 97, 13, 98] [97, 10, 97, 13] = .differ m ∧ m.line = 2 := by
  have hfits : (Edit.insert 4 98).Fits [97, 10, 97, 13] := ⟨by decide, by decide⟩
  exact ⟨hfits, compare_edit hfits⟩

/-- The two bytes whose insertion can go unnoticed. -/
example : compare [97, 10] [97] = .equal ∧ compare [97, 13] [97] = .equal := by decide

end GoldenFiles.Content
