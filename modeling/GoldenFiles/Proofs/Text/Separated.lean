import GoldenFiles.Text.Separated
import Mathlib.Data.List.Basic

/-!
# Cutting and joining are inverse

Cutting a list at a separator and joining pieces undo each other, as long as no
piece holds the separator, and a separator inside a list cuts it into two that
can be cut one after the other. Lines, paths and reports all rest on these two
facts.
-/

namespace GoldenFiles.Separated

variable {α : Type _} [DecidableEq α]

theorem split_of_not_mem {sep : α} {xs : List α} (h : sep ∉ xs) : split sep xs = [xs] := by
  induction xs with
  | nil => rfl
  | cons x xs ih =>
      obtain ⟨hx, hxs⟩ := not_or.mp (mt List.mem_cons.mpr h)
      rw [split_cons, if_neg (Ne.symm hx), ih hxs, extend]

theorem split_append_cons (sep : α) (xs ys : List α) :
    split sep (xs ++ sep :: ys) = split sep xs ++ split sep ys := by
  induction xs with
  | nil => rw [List.nil_append, split_cons, if_pos rfl]; rfl
  | cons x xs ih =>
      rw [List.cons_append, split_cons, split_cons, ih]
      split
      · rfl
      · cases hs : split sep xs with
        | nil => exact absurd hs (split_ne_nil sep xs)
        | cons piece pieces => rfl

/-- There is one piece more than there are separators. -/
theorem length_split (sep : α) (xs : List α) : (split sep xs).length = xs.count sep + 1 := by
  induction xs with
  | nil => rfl
  | cons x xs ih =>
      rw [split_cons]
      split
      · next h => rw [h, List.length_cons, ih, List.count_cons_self]
      · next h =>
          rw [List.count_cons_of_ne h, ← ih]
          cases hs : split sep xs with
          | nil => exact absurd hs (split_ne_nil sep xs)
          | cons piece pieces => rfl

/-- Joining loses nothing but what cutting puts back, if no piece holds the
separator. -/
theorem split_join (sep : α) {pieces : List (List α)} (h : pieces ≠ [])
    (hsep : ∀ piece ∈ pieces, sep ∉ piece) : split sep (join sep pieces) = pieces := by
  induction pieces with
  | nil => exact absurd rfl h
  | cons piece rest ih =>
      have hpiece : sep ∉ piece := hsep piece (by simp)
      cases rest with
      | nil =>
          rw [show join sep [piece] = piece by simp [join, List.intercalate]]
          exact split_of_not_mem hpiece
      | cons next rest =>
          have hjoin : join sep (piece :: next :: rest) =
              piece ++ sep :: join sep (next :: rest) := by
            simp [join, List.intercalate]
          rw [hjoin, split_append_cons, split_of_not_mem hpiece,
            ih (by simp) fun p hp => hsep p (List.mem_cons_of_mem _ hp)]
          rfl

/-- No pieces are joined to what one empty piece is joined to. -/
theorem split_join_eq (sep : α) {pieces : List (List α)} (hsep : ∀ piece ∈ pieces, sep ∉ piece) :
    split sep (join sep pieces) = if pieces = [] then [[]] else pieces := by
  split
  · next h => rw [h]; rfl
  · next h => exact split_join sep h hsep

/-- That is the only way in which different pieces are joined to the same. -/
theorem join_eq_join_iff (sep : α) {xs ys : List (List α)} (hx : ∀ piece ∈ xs, sep ∉ piece)
    (hy : ∀ piece ∈ ys, sep ∉ piece) : join sep xs = join sep ys ↔
      xs = ys ∨ xs = [] ∧ ys = [[]] ∨ xs = [[]] ∧ ys = [] := by
  constructor
  · intro h
    have hsplit := congrArg (split sep) h
    rw [split_join_eq sep hx, split_join_eq sep hy] at hsplit
    split at hsplit
    · next hxs =>
        split at hsplit
        · next hys => exact .inl (hxs.trans hys.symm)
        · exact .inr (.inl ⟨hxs, hsplit.symm⟩)
    · split at hsplit
      · next hys => exact .inr (.inr ⟨hsplit, hys⟩)
      · exact .inl hsplit
  · rintro (rfl | ⟨rfl, rfl⟩ | ⟨rfl, rfl⟩) <;> rfl

/-- Lines that are each closed by a separator are found again, and nothing behind the last one. -/
theorem split_flatMap_closed {sep : α} {pieces : List (List α)}
    (h : ∀ piece ∈ pieces, sep ∉ piece) :
    split sep (pieces.flatMap (· ++ [sep])) = pieces ++ [[]] := by
  induction pieces with
  | nil => rfl
  | cons piece pieces ih =>
      obtain ⟨hpiece, hrest⟩ := List.forall_mem_cons.mp h
      rw [List.flatMap_cons, List.append_assoc, List.singleton_append, split_append_cons,
        split_of_not_mem hpiece, ih hrest]
      rfl

omit [DecidableEq α] in
theorem join_append (sep : α) {xs ys : List (List α)} (hx : xs ≠ []) (hy : ys ≠ []) :
    join sep (xs ++ ys) = join sep xs ++ sep :: join sep ys := by
  obtain ⟨y, ys, rfl⟩ := List.exists_cons_of_ne_nil hy
  induction xs with
  | nil => exact absurd rfl hx
  | cons x xs ih =>
      cases xs with
      | nil => simp [join, List.intercalate]
      | cons next xs =>
          have := ih (by simp)
          simp only [join, List.intercalate, List.cons_append, List.intersperse_cons_cons,
            List.flatten_cons, List.append_assoc] at this ⊢
          rw [this]

omit [DecidableEq α] in
theorem join_prefix (sep : α) {xs zs : List (List α)} (hx : xs ≠ []) (h : xs <+: zs) :
    join sep xs <+: join sep zs := by
  obtain ⟨ys, rfl⟩ := h
  by_cases hy : ys = []
  · rewrite [hy, List.append_nil]
    exact List.prefix_rfl
  · rw [join_append sep hx hy]
    exact List.prefix_append _ _

/-- A list ends in its separator just if the last piece is empty and not the
only one. -/
theorem getLast?_eq_sep_iff (sep : α) (xs : List α) :
    xs.getLast? = some sep ↔ ∃ init, init ≠ [] ∧ split sep xs = init ++ [[]] := by
  constructor
  · intro h
    obtain ⟨ys, rfl⟩ := List.getLast?_eq_some_iff.mp h
    exact ⟨split sep ys, split_ne_nil sep ys, split_append_cons sep ys []⟩
  · rintro ⟨init, hinit, hs⟩
    rw [← join_split sep xs, hs, join_append sep hinit (by simp), List.getLast?_append]
    rfl

/-- What has no separator goes in front of the first piece. -/
theorem split_append_of_not_mem {sep : α} {xs : List α} (h : sep ∉ xs) {ys first : List α}
    {rest : List (List α)} (hs : split sep ys = first :: rest) :
    split sep (xs ++ ys) = (xs ++ first) :: rest := by
  induction xs with
  | nil => exact hs
  | cons x xs ih =>
      obtain ⟨hx, hxs⟩ := not_or.mp (mt List.mem_cons.mpr h)
      rw [List.cons_append, split_cons, if_neg (Ne.symm hx), ih hxs]
      rfl

theorem subset_of_mem_split {sep : α} {xs : List α} {piece : List α}
    (h : piece ∈ split sep xs) : piece ⊆ xs := by
  induction xs generalizing piece with
  | nil => simp_all
  | cons x xs ih =>
      rw [split_cons] at h
      split at h
      · rcases List.mem_cons.mp h with rfl | h
        · exact List.nil_subset _
        · exact List.subset_cons_of_subset _ (ih h)
      · cases hs : split sep xs with
        | nil => exact absurd hs (split_ne_nil sep xs)
        | cons first rest =>
            rw [hs, extend] at h
            rcases List.mem_cons.mp h with rfl | h
            · exact List.cons_subset_cons _ (ih (by simp [hs]))
            · exact List.subset_cons_of_subset _ (ih (by simp [hs, h]))

theorem exists_mem_split {sep x : α} {xs : List α} (h : x ∈ xs)
    (hx : x ≠ sep) : ∃ piece ∈ split sep xs, x ∈ piece := by
  induction xs with
  | nil => cases h
  | cons y ys ih =>
      rw [split_cons]
      split
      · next hy =>
          obtain ⟨piece, hp, hmem⟩ := ih ((List.mem_cons.mp h).resolve_left (hy ▸ hx))
          exact ⟨piece, List.mem_cons_of_mem _ hp, hmem⟩
      · cases hs : split sep ys with
        | nil => exact absurd hs (split_ne_nil sep ys)
        | cons first rest =>
            rw [extend]
            rcases List.mem_cons.mp h with rfl | h
            · exact ⟨_, List.mem_cons_self, List.mem_cons_self⟩
            · obtain ⟨piece, hp, hmem⟩ := ih h
              rcases List.mem_cons.mp (hs ▸ hp) with rfl | hp
              · exact ⟨_, List.mem_cons_self, List.mem_cons_of_mem _ hmem⟩
              · exact ⟨piece, List.mem_cons_of_mem _ hp, hmem⟩

/-! ## One element at the end -/

theorem dropFinal_concat (x : α) (xs : List α) : dropFinal x (xs ++ [x]) = xs := by
  rw [dropFinal, List.getLast?_concat, if_pos rfl, List.dropLast_concat]

theorem dropFinal_of_ne {x : α} {xs : List α} (h : xs.getLast? ≠ some x) : dropFinal x xs = xs :=
  if_neg h

theorem dropFinal_append {xs ys : List α} (x : α) (h : ys ≠ []) :
    dropFinal x (xs ++ ys) = xs ++ dropFinal x ys := by
  unfold dropFinal
  rw [List.getLast?_append_of_ne_nil xs h]
  split
  · exact List.dropLast_append_of_ne_nil h
  · rfl

theorem dropFinal_subset (x : α) (xs : List α) : dropFinal x xs ⊆ xs := by
  unfold dropFinal
  split
  · exact List.dropLast_subset xs
  · exact List.Subset.refl xs

end GoldenFiles.Separated
