/-!
# Lists cut at a separator

Lines end in a line feed, path pieces stand between slashes, and a report joins
what it cut. All three are one operation: a list is cut at every occurrence of
a separator, so that there is always one piece more than there are separators,
and joining the pieces gives the list back. The empty list is one empty piece;
whoever wants it to be no piece at all says so where that rule belongs.
-/

namespace GoldenFiles.Separated

variable {α : Type _}

/-- Puts an element in front of the first piece. -/
def extend (x : α) : List (List α) → List (List α)
  | [] => [[x]]
  | piece :: pieces => (x :: piece) :: pieces

/-- The pieces between the separators, in order. -/
def split [DecidableEq α] (sep : α) (xs : List α) : List (List α) :=
  xs.foldr (fun x pieces => if x = sep then [] :: pieces else extend x pieces) [[]]

/-- The pieces with a separator between every two of them. -/
def join (sep : α) (pieces : List (List α)) : List α :=
  List.intercalate [sep] pieces

/-- The list without one final element, if it ends in that element. -/
def dropFinal [DecidableEq α] (x : α) (xs : List α) : List α :=
  if xs.getLast? = some x then xs.dropLast else xs

@[simp] theorem split_nil [DecidableEq α] (sep : α) : split sep [] = [[]] := rfl

theorem split_cons [DecidableEq α] (sep x : α) (xs : List α) :
    split sep (x :: xs) =
      if x = sep then [] :: split sep xs else extend x (split sep xs) := rfl

@[simp] theorem extend_ne_nil (x : α) (pieces : List (List α)) :
    extend x pieces ≠ [] := by
  cases pieces <;> simp [extend]

@[simp] theorem split_ne_nil [DecidableEq α] (sep : α) (xs : List α) : split sep xs ≠ [] := by
  cases xs with
  | nil => simp
  | cons x xs => rw [split_cons]; split <;> simp

theorem join_extend (sep x : α) {pieces : List (List α)} (h : pieces ≠ []) :
    join sep (extend x pieces) = x :: join sep pieces := by
  match pieces with
  | [] => exact absurd rfl h
  | [piece] => simp [extend, join, List.intercalate]
  | piece :: next :: rest => simp [extend, join, List.intercalate]

theorem join_nil_cons (sep : α) {pieces : List (List α)} (h : pieces ≠ []) :
    join sep ([] :: pieces) = sep :: join sep pieces := by
  match pieces with
  | [] => exact absurd rfl h
  | piece :: rest => simp [join, List.intercalate]

/-- Cutting loses nothing but what joining puts back. -/
@[simp] theorem join_split [DecidableEq α] (sep : α) (xs : List α) :
    join sep (split sep xs) = xs := by
  induction xs with
  | nil => rfl
  | cons x xs ih =>
      rw [split_cons]
      split
      · next h => rw [join_nil_cons _ (split_ne_nil sep xs), ih, h]
      · rw [join_extend _ _ (split_ne_nil sep xs), ih]

/-- No piece holds the separator. -/
theorem not_mem_of_mem_split [DecidableEq α] {sep : α} {xs : List α} {piece : List α}
    (h : piece ∈ split sep xs) : sep ∉ piece := by
  induction xs generalizing piece with
  | nil => simp_all
  | cons x xs ih =>
      rw [split_cons] at h
      split at h
      · rcases List.mem_cons.mp h with rfl | h
        · simp
        · exact ih h
      · next hx =>
          cases hs : split sep xs with
          | nil => exact absurd hs (split_ne_nil sep xs)
          | cons first rest =>
              rw [hs, extend] at h
              rcases List.mem_cons.mp h with rfl | h
              · have hfirst : sep ∉ first := ih (by simp [hs])
                simp [hfirst, Ne.symm hx]
              · exact ih (by simp [hs, h])

end GoldenFiles.Separated
