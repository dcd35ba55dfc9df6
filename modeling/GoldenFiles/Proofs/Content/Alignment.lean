import GoldenFiles.Content.Diff
import Mathlib.Data.List.Basic

/-!
# A difference holds both texts

Whatever lines a difference takes for common, it shows each text in full and in order:
the lines that are the same or removed are the first text, those that are the same or
added are the second one. For this it does not matter how the common lines were found,
nor that there could be more of them. It matters that they are a subsequence of both
texts, which `trace` keeps at every step back through the table, whatever the table holds.

Along such a subsequence a round always gets somewhere. Either both texts go on with the
next common line, or one of them has other lines before it, or no common line is left and
the rest of both is taken at once. `Round` says what one round does; `align` is as many
rounds as there are lines, and that is enough.
-/

namespace GoldenFiles.Diff

open List

/-- The lines of a change that the first text has. -/
def Change.old : Change → List Line
  | same lines | removed lines => lines
  | added _ => []

/-- The lines of a change that the second text has. -/
def Change.new : Change → List Line
  | same lines | added lines => lines
  | removed _ => []

/-! ## Common lines are in both texts -/

theorem take_succ_toList {as : Array Line} {i : Nat} (h : i < as.size) :
    as.toList.take (i + 1) = as.toList.take i ++ [as.getD i []] := by
  rw [List.take_succ_eq_append_getElem (by simpa using h), Array.getElem_toList h,
    Array.getD_eq_getD_getElem?, Array.getElem?_eq_getElem h, Option.getD_some]

/-- A walk back through a table puts lines in front of those it has found that both texts
have, in order, before the row and the column it stands at. -/
theorem exists_trace (as bs : Array Line) (cells : Array Nat) (m i j : Nat) (found : List Line)
    (hi : i ≤ as.size) (hj : j ≤ bs.size) : ∃ front, trace as bs cells m i j found = front ++ found ∧
      front <+ as.toList.take i ∧ front <+ bs.toList.take j := by
  fun_induction trace as bs cells m i j found with
  | case1 => exact ⟨[], rfl, List.nil_sublist _, List.nil_sublist _⟩
  | case2 => exact ⟨[], rfl, List.nil_sublist _, List.nil_sublist _⟩
  | case3 i j found a heq ih =>
      obtain ⟨front, hfront, has, hbs⟩ := ih (by omega) (by omega)
      refine ⟨front ++ [a], by rw [hfront, List.append_assoc]; rfl, ?_, ?_⟩
      · rw [take_succ_toList (by omega)]
        exact has.append (List.Sublist.refl _)
      · rw [take_succ_toList (by omega), ← heq]
        exact hbs.append (List.Sublist.refl _)
  | case4 => exact ⟨[], rfl, List.nil_sublist _, List.nil_sublist _⟩
  | case5 i j found a hne hfirst hleft ih =>
      obtain ⟨front, hfront, has, hbs⟩ := ih hi (by omega)
      exact ⟨front, hfront, has, hbs.trans (List.take_sublist_take_left (Nat.le_succ j))⟩
  | case6 i j found a hne hfirst hleft ih =>
      obtain ⟨front, hfront, has, hbs⟩ := ih (by omega) hj
      exact ⟨front, hfront, has.trans (List.take_sublist_take_left (Nat.le_succ i)), hbs⟩

theorem common_sublist (as bs : List Line) : common as bs <+ as ∧ common as bs <+ bs := by
  obtain ⟨front, hfront, has, hbs⟩ := exists_trace as.toArray bs.toArray (table as bs) bs.length
    as.length bs.length [] (by simp) (by simp)
  rw [common, hfront, List.append_nil]
  exact ⟨has.trans (List.take_sublist _ _), hbs.trans (List.take_sublist _ _)⟩

/-! ## One round -/

/-- Two texts and their common lines without a front that all three begin with, where they
no longer go on alike. -/
structure Shares (as bs cs same as' bs' cs' : List Line) : Prop where
  as_eq : as = same ++ as'
  bs_eq : bs = same ++ bs'
  cs_eq : cs = same ++ cs'
  stops : ∀ c rest, cs' = c :: rest → as'.head? = some c → bs'.head? ≠ some c

theorem shares_takeSame (as bs cs : List Line) : Shares as bs cs (takeSame as bs cs).1
    (takeSame as bs cs).2.1 (takeSame as bs cs).2.2.1 (takeSame as bs cs).2.2.2 := by
  fun_induction takeSame as bs cs with
  | case1 a as b bs c cs h same as' bs' cs' heq ih =>
      obtain ⟨rfl, rfl⟩ := h
      rw [heq] at ih
      exact ⟨congrArg _ ih.as_eq, congrArg _ ih.bs_eq, congrArg _ ih.cs_eq, ih.stops⟩
  | case2 a as b bs c cs h =>
      refine ⟨rfl, rfl, rfl, fun d rest hd ha hb => h ?_⟩
      obtain rfl := (List.cons.inj hd).1
      exact ⟨Option.some.inj ha, Option.some.inj hb⟩
  | case3 as bs cs hno =>
      refine ⟨rfl, rfl, rfl, fun c rest hc ha hb => ?_⟩
      obtain ⟨as', rfl⟩ := List.head?_eq_some_iff.mp ha
      obtain ⟨bs', rfl⟩ := List.head?_eq_some_iff.mp hb
      exact hno _ _ _ _ _ _ rfl rfl hc

theorem sublist_dropWhile {c : Line} {cs lines : List Line} (h : c :: cs <+ lines) :
    c :: cs <+ lines.dropWhile (some · ≠ some c) := by
  induction lines with
  | nil => cases h
  | cons line lines ih =>
      by_cases hline : line = c
      · rwa [List.dropWhile_cons_of_neg (by simp [hline])]
      · rw [List.dropWhile_cons_of_pos (by simp [hline])]
        exact ih (h.of_cons_of_ne (Ne.symm hline))

/-- What is taken before the next common line is lost to neither text nor to the common ones. -/
theorem takeOther_sublist {cs lines : List Line} (h : cs <+ lines) :
    lines = (takeOther cs.head? lines).1 ++ (takeOther cs.head? lines).2 ∧
      cs <+ (takeOther cs.head? lines).2 := by
  refine ⟨(List.takeWhile_append_dropWhile).symm, ?_⟩
  cases cs with
  | nil => exact List.nil_sublist _
  | cons c cs => exact sublist_dropWhile h

theorem head?_eq_of_takeOther {cs lines : List Line} (h : cs <+ lines)
    (hnil : (takeOther cs.head? lines).1 = []) : lines.head? = cs.head? := by
  cases lines with
  | nil => rw [List.sublist_nil.mp h]
  | cons line lines =>
      by_contra hne
      have hother : some line ≠ cs.head? := hne
      simp [takeOther, hother] at hnil

/-- What a round takes from two texts, and what it leaves of them and their common lines. -/
structure Round (as bs cs same removed added as' bs' cs' : List Line) : Prop where
  as_eq : as = same ++ (removed ++ as')
  bs_eq : bs = same ++ (added ++ bs')
  as_sub : cs' <+ as'
  bs_sub : cs' <+ bs'
  shorter : as'.length + bs'.length < as.length + bs.length

theorem round {as bs cs same as₁ bs₁ cs' : List Line} (shares : Shares as bs cs same as₁ bs₁ cs')
    (has : cs <+ as) (hbs : cs <+ bs) (hne : ¬(as = [] ∧ bs = [])) :
    Round as bs cs same (takeOther cs'.head? as₁).1 (takeOther cs'.head? bs₁).1
      (takeOther cs'.head? as₁).2 (takeOther cs'.head? bs₁).2 cs' := by
  rw [shares.as_eq, shares.cs_eq, List.append_sublist_append_left] at has
  rw [shares.bs_eq, shares.cs_eq, List.append_sublist_append_left] at hbs
  obtain ⟨hasplit, hasub⟩ := takeOther_sublist has
  obtain ⟨hbsplit, hbsub⟩ := takeOther_sublist hbs
  have hanil := head?_eq_of_takeOther has
  have hbnil := head?_eq_of_takeOther hbs
  generalize takeOther cs'.head? as₁ = ta at *
  generalize takeOther cs'.head? bs₁ = tb at *
  obtain ⟨removed, as'⟩ := ta
  obtain ⟨added, bs'⟩ := tb
  have haeq : as = same ++ (removed ++ as') := by rw [shares.as_eq, hasplit]
  have hbeq : bs = same ++ (added ++ bs') := by rw [shares.bs_eq, hbsplit]
  refine ⟨haeq, hbeq, hasub, hbsub, ?_⟩
  by_contra hstuck
  have hlength : same.length = 0 ∧ removed.length = 0 ∧ added.length = 0 := by
    rw [haeq, hbeq] at hstuck
    simp only [List.length_append] at hstuck
    omega
  simp only [List.length_eq_zero_iff] at hlength
  obtain ⟨rfl, rfl, rfl⟩ := hlength
  have hahead := hanil rfl
  have hbhead := hbnil rfl
  cases cs' with
  | nil =>
      -- no common line is left, so nothing but empty texts could be left alone
      refine hne ⟨?_, ?_⟩
      · rw [shares.as_eq, List.nil_append, List.head?_eq_none_iff.mp hahead]
      · rw [shares.bs_eq, List.nil_append, List.head?_eq_none_iff.mp hbhead]
  | cons c rest => exact shares.stops c rest rfl hahead hbhead

/-! ## All rounds -/

/-- The change of some lines, if there are any. -/
def group (change : List Line → Change) (lines : List Line) : List Change :=
  if lines = [] then [] else [change lines]

theorem flatMap_group {side : Change → List Line} {change : List Line → Change}
    (h : side (change []) = []) (lines : List Line) :
    (group change lines).flatMap side = side (change lines) := by
  unfold group
  split
  · next hlines => rw [hlines, h, List.flatMap_nil]
  · exact List.flatMap_singleton side _

/-- The changes of one round. -/
def roundChanges (same removed added : List Line) : List Change :=
  group .same same ++ group .removed removed ++ group .added added

theorem old_roundChanges (same removed added : List Line) :
    (roundChanges same removed added).flatMap Change.old = same ++ removed := by
  rw [roundChanges, List.flatMap_append, List.flatMap_append, flatMap_group rfl, flatMap_group rfl,
    flatMap_group rfl]
  exact List.append_nil _

theorem new_roundChanges (same removed added : List Line) :
    (roundChanges same removed added).flatMap Change.new = same ++ added := by
  rw [roundChanges, List.flatMap_append, List.flatMap_append, flatMap_group rfl, flatMap_group rfl,
    flatMap_group rfl]
  exact congrArg (· ++ added) (List.append_nil same)

theorem exists_round {as bs cs : List Line} (rounds : Nat) (has : cs <+ as) (hbs : cs <+ bs)
    (hne : ¬(as = [] ∧ bs = [])) : ∃ same removed added as' bs' cs',
      Round as bs cs same removed added as' bs' cs' ∧
        align (rounds + 1) as bs cs =
          roundChanges same removed added ++ align rounds as' bs' cs' := by
  have hround := round (shares_takeSame as bs cs) has hbs hne
  refine ⟨_, _, _, _, _, _, hround, ?_⟩
  rw [align, if_neg hne]
  rfl

/-- As many rounds as there are lines leave nothing of either text. -/
theorem align_faithful {rounds : Nat} {as bs cs : List Line} (has : cs <+ as) (hbs : cs <+ bs)
    (hrounds : as.length + bs.length ≤ rounds) :
    (align rounds as bs cs).flatMap Change.old = as ∧
      (align rounds as bs cs).flatMap Change.new = bs := by
  induction rounds generalizing as bs cs with
  | zero =>
      have hempty : as.length = 0 ∧ bs.length = 0 := by omega
      rw [List.length_eq_zero_iff.mp hempty.1, List.length_eq_zero_iff.mp hempty.2]
      exact ⟨rfl, rfl⟩
  | succ rounds ih =>
      by_cases hne : as = [] ∧ bs = []
      · rw [align, if_pos hne, hne.1, hne.2]
        exact ⟨rfl, rfl⟩
      · obtain ⟨same, removed, added, as', bs', cs', hround, heq⟩ := exists_round rounds has hbs hne
        have hshorter := hround.shorter
        obtain ⟨hold, hnew⟩ := ih hround.as_sub hround.bs_sub (by omega)
        rw [heq, List.flatMap_append, List.flatMap_append, old_roundChanges, new_roundChanges, hold,
          hnew, List.append_assoc, List.append_assoc]
        exact ⟨hround.as_eq.symm, hround.bs_eq.symm⟩

theorem linesOf_sublist {cs lines : List Line} (h : cs <+ lines) : linesOf cs <+ linesOf lines := by
  unfold linesOf
  split
  · exact List.nil_sublist _
  · next hcs =>
      split
      · next hlines =>
          rw [hlines, List.sublist_singleton] at h
          rcases h with rfl | rfl
          · exact List.Sublist.refl _
          · exact absurd rfl hcs
      · exact h

theorem linesOf_sublist_self (lines : List Line) : linesOf lines <+ lines := by
  unfold linesOf
  split
  · exact List.nil_sublist _
  · exact List.Sublist.refl _

/-- Texts with at least one line each are told apart by what is left of them. -/
theorem linesOf_inj {as bs : List Line} (has : as ≠ []) (hbs : bs ≠ [])
    (h : linesOf as = linesOf bs) : as = bs := by
  unfold linesOf at h
  split at h
  · next ha =>
      split at h
      · next hb => rw [ha, hb]
      · exact absurd h.symm hbs
  · split at h
    · exact absurd h has
    · exact h

/-- The changes from one text to another show both, without a lone blank line. -/
theorem changes_faithful (expected actual : List Line) :
    (changes expected actual).flatMap Change.old = linesOf expected ∧
      (changes expected actual).flatMap Change.new = linesOf actual := by
  obtain ⟨hexpected, hactual⟩ := common_sublist expected actual
  refine align_faithful (linesOf_sublist hexpected) (linesOf_sublist hactual) ?_
  exact Nat.add_le_add (linesOf_sublist_self expected).length_le (linesOf_sublist_self actual).length_le

/-- Every line of a change is a line of one of the texts. -/
theorem mem_of_mem_changes {expected actual : List Line} {c : Change}
    (hc : c ∈ changes expected actual) {line : Line} (h : line ∈ c.lines) :
    line ∈ expected ∨ line ∈ actual := by
  obtain ⟨hold, hnew⟩ := changes_faithful expected actual
  have hexpected (hside : line ∈ c.old) : line ∈ expected := by
    refine (linesOf_sublist_self expected).subset ?_
    rw [← hold]
    exact List.mem_flatMap.mpr ⟨c, hc, hside⟩
  have hactual (hside : line ∈ c.new) : line ∈ actual := by
    refine (linesOf_sublist_self actual).subset ?_
    rw [← hnew]
    exact List.mem_flatMap.mpr ⟨c, hc, hside⟩
  cases c with
  | same lines | removed lines => exact .inl (hexpected h)
  | added lines => exact .inr (hactual h)

end GoldenFiles.Diff
