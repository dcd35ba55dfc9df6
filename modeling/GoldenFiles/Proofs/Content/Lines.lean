import GoldenFiles.Content.Lines
import GoldenFiles.Proofs.Text.Separated

/-!
# The rules of lines

Lines can be read off a content piece by piece: a content that ends in a line
feed can be cut off in front, and what is left in the end is one line feed or
one line without its end. `ReadsLines` lists these rules, and with them what
they come to for whole files: a list of lines written with either kind of line
end is read back.

The rules leave nothing open. `readsLines_iff` says that they hold of `lines`
and of no other function, since every content is made of terminated lines and
at most one that is not.
-/

namespace GoldenFiles.Content

open Separated

/-- The rules by which a function tells the lines of a content. -/
structure ReadsLines (read : Bytes → List Bytes) : Prop where
  append : ∀ front rest, front = [] ∨ front.getLast? = some lineFeed →
    read (front ++ rest) = read front ++ read rest
  /-- One carriage return at the end of a line does not count. -/
  ended : ∀ line, lineFeed ∉ line → read (line ++ [carriageReturn]) = [line]
  plain : ∀ line, line ≠ [] → lineFeed ∉ line → line.getLast? ≠ some carriageReturn →
    read line = [line]
  blank : read [lineFeed] = [[]]
  /-- The last line need not end in a line feed. -/
  final : ∀ content, content ≠ [] → content.getLast? ≠ some lineFeed →
    read (content ++ [lineFeed]) = read content
  free : ∀ content, ∀ line ∈ read content, lineFeed ∉ line
  crlf : ∀ all : List Bytes, (∀ line ∈ all, lineFeed ∉ line) →
    read (all.flatMap (· ++ [carriageReturn, lineFeed])) = all
  lf : ∀ all : List Bytes,
    (∀ line ∈ all, lineFeed ∉ line ∧ line.getLast? ≠ some carriageReturn) →
    read (all.flatMap (· ++ [lineFeed])) = all

/-! ## One content after the other -/

theorem lines_of_ne_nil {content : Bytes} (h : content ≠ []) : lines content =
    (split lineFeed (dropFinal lineFeed content)).map (dropFinal carriageReturn) :=
  if_neg h

theorem lines_terminated (front : Bytes) :
    lines (front ++ [lineFeed]) = (split lineFeed front).map (dropFinal carriageReturn) := by
  rw [lines_of_ne_nil (by simp), dropFinal_concat]

/-- What ends in a line feed keeps its lines, whatever comes after it. -/
theorem lines_append {front : Bytes} (h : front = [] ∨ front.getLast? = some lineFeed)
    (rest : Bytes) : lines (front ++ rest) = lines front ++ lines rest := by
  rcases h with rfl | h
  · rfl
  · obtain ⟨init, rfl⟩ := List.getLast?_eq_some_iff.mp h
    by_cases hrest : rest = []
    · rw [hrest, List.append_nil, lines_nil, List.append_nil]
    · rw [lines_terminated, lines_of_ne_nil hrest, lines_of_ne_nil (by simp),
        dropFinal_append _ hrest, List.append_assoc, List.singleton_append, split_append_cons,
        List.map_append]

/-! ## One line -/

theorem lines_of_not_mem {line : Bytes} (hne : line ≠ []) (h : lineFeed ∉ line) :
    lines line = [dropFinal carriageReturn line] := by
  have hlast : line.getLast? ≠ some lineFeed := fun hl => h (List.mem_of_getLast? hl)
  rw [lines_of_ne_nil hne, dropFinal_of_ne hlast, split_of_not_mem h]
  rfl

theorem lines_ended {line : Bytes} (h : lineFeed ∉ line) :
    lines (line ++ [carriageReturn]) = [line] := by
  have hfree : lineFeed ∉ line ++ [carriageReturn] := by
    rw [List.mem_append, not_or]
    exact ⟨h, by decide⟩
  rw [lines_of_not_mem (by simp) hfree, dropFinal_concat]

theorem lines_plain {line : Bytes} (hne : line ≠ []) (h : lineFeed ∉ line)
    (hlast : line.getLast? ≠ some carriageReturn) : lines line = [line] := by
  rw [lines_of_not_mem hne h, dropFinal_of_ne hlast]

theorem lines_final {content : Bytes} (hne : content ≠ [])
    (h : content.getLast? ≠ some lineFeed) : lines (content ++ [lineFeed]) = lines content := by
  rw [lines_terminated, lines_of_ne_nil hne, dropFinal_of_ne h]

theorem not_mem_of_mem_lines {content line : Bytes} (h : line ∈ lines content) :
    lineFeed ∉ line := by
  by_cases hne : content = []
  · rw [hne] at h
    cases h
  · rw [lines_of_ne_nil hne] at h
    obtain ⟨piece, hpiece, rfl⟩ := List.mem_map.mp h
    exact fun hmem => not_mem_of_mem_split hpiece (dropFinal_subset _ _ hmem)

/-! ## Lists of lines -/

/-- Lines that are each written with an end that a line feed closes are read
back, if each of them is. -/
theorem lines_flatMap {write : Bytes → Bytes} {all : List Bytes}
    (hend : ∀ line ∈ all, (write line).getLast? = some lineFeed)
    (hone : ∀ line ∈ all, lines (write line) = [line]) : lines (all.flatMap write) = all := by
  induction all with
  | nil => rfl
  | cons line all ih =>
      obtain ⟨hline, hends⟩ := List.forall_mem_cons.mp hend
      obtain ⟨hread, hones⟩ := List.forall_mem_cons.mp hone
      rw [List.flatMap_cons, lines_append (.inr hline), hread, ih hends hones]
      rfl

theorem lines_crlf {all : List Bytes} (h : ∀ line ∈ all, lineFeed ∉ line) :
    lines (all.flatMap (· ++ [carriageReturn, lineFeed])) = all := by
  apply lines_flatMap
  · intro line _
    rw [List.getLast?_append_of_ne_nil line (by simp)]
    rfl
  · intro line hline
    have hlast : (line ++ [carriageReturn]).getLast? ≠ some lineFeed := by
      rw [List.getLast?_concat]
      decide
    rw [show [carriageReturn, lineFeed] = [carriageReturn] ++ [lineFeed] from rfl,
      ← List.append_assoc, lines_final (by simp) hlast, lines_ended (h line hline)]

theorem lines_lf {all : List Bytes}
    (h : ∀ line ∈ all, lineFeed ∉ line ∧ line.getLast? ≠ some carriageReturn) :
    lines (all.flatMap (· ++ [lineFeed])) = all := by
  apply lines_flatMap
  · intro line _
    exact List.getLast?_concat
  · intro line hline
    obtain ⟨hfree, hlast⟩ := h line hline
    by_cases hne : line = []
    · rw [hne, List.nil_append, lines_lineFeed]
    · rw [lines_final hne fun hl => hfree (List.mem_of_getLast? hl), lines_plain hne hfree hlast]

theorem readsLines_lines : ReadsLines lines where
  append _ rest h := lines_append h rest
  ended _ h := lines_ended h
  plain _ hne h hlast := lines_plain hne h hlast
  blank := lines_lineFeed
  final _ hne h := lines_final hne h
  free _ _ h := not_mem_of_mem_lines h
  crlf _ h := lines_crlf h
  lf _ h := lines_lf h

/-! ## Nothing is left open -/

namespace ReadsLines

variable {f g : Bytes → List Bytes}

theorem nil (hf : ReadsLines f) : f [] = [] := by
  have h := hf.append [] [] (.inl rfl)
  exact List.self_eq_append_left.mp h

/-- The rules for one line tell all of it. -/
theorem eq_of_not_mem (hf : ReadsLines f) (hg : ReadsLines g) {line : Bytes}
    (h : lineFeed ∉ line) : f line = g line := by
  by_cases hne : line = []
  · rw [hne, hf.nil, hg.nil]
  by_cases hlast : line.getLast? = some carriageReturn
  · obtain ⟨init, rfl⟩ := List.getLast?_eq_some_iff.mp hlast
    have hinit : lineFeed ∉ init := fun hmem => h (List.mem_append_left _ hmem)
    rw [hf.ended init hinit, hg.ended init hinit]
  · rw [hf.plain line hne h hlast, hg.plain line hne h hlast]

theorem eq_of_terminated (hf : ReadsLines f) (hg : ReadsLines g) {line : Bytes}
    (h : lineFeed ∉ line) : f (line ++ [lineFeed]) = g (line ++ [lineFeed]) := by
  by_cases hne : line = []
  · rw [hne, List.nil_append, hf.blank, hg.blank]
  · have hlast : line.getLast? ≠ some lineFeed := fun hl => h (List.mem_of_getLast? hl)
    rw [hf.final line hne hlast, hg.final line hne hlast, hf.eq_of_not_mem hg h]

theorem unique (hf : ReadsLines f) (hg : ReadsLines g) (content : Bytes) :
    f content = g content := by
  by_cases h : lineFeed ∈ content
  · obtain ⟨line, rest, hcut, hline⟩ := List.eq_append_cons_of_mem h
    have hshorter : rest.length < content.length := by
      rw [hcut, List.length_append, List.length_cons]
      omega
    have hend : (line ++ [lineFeed]).getLast? = some lineFeed := List.getLast?_concat
    rw [hcut, List.append_cons, hf.append _ rest (.inr hend), hg.append _ rest (.inr hend),
      hf.eq_of_terminated hg hline, hf.unique hg rest]
  · exact hf.eq_of_not_mem hg h
termination_by content.length

end ReadsLines

/-- The rules of lines hold of `lines` and of nothing else. -/
theorem readsLines_iff (read : Bytes → List Bytes) : ReadsLines read ↔ read = lines := by
  constructor
  · intro h
    exact funext fun content => h.unique readsLines_lines content
  · rintro rfl
    exact readsLines_lines

/-- One line with a carriage return, one without and a blank one at the end. -/
theorem readsLines_iff_example :
    lines ([97, 13, 10, 98, 10] ++ [10]) = [[97], [98], []] ∧
      lines ([[97, 13], []].flatMap (· ++ [carriageReturn, lineFeed])) = [[97, 13], []] ∧
      lines ([97] ++ [lineFeed]) = lines [97] := by
  have rules : ReadsLines lines := (readsLines_iff lines).mpr rfl
  refine ⟨?_, rules.crlf _ (by decide), rules.final [97] (by decide) (by decide)⟩
  rw [rules.append _ _ (.inr rfl)]
  rfl

end GoldenFiles.Content
