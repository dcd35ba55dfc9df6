import GoldenFiles.Sorting
import Mathlib.Data.List.Basic

/-!
# Sorted lists are determined by their items

Whatever order items were found in, sorting them by a key with a lawful order
gives one and the same list as long as no two of them have equal keys. That list
ascends strictly, and what is taken out of it by a predicate is what sorting
would have given without the rest.
-/

namespace GoldenFiles

variable {α β : Type _} [Ord β]

/-- Items whose keys ascend strictly. -/
def Ascending (key : α → β) (items : List α) : Prop :=
  items.Pairwise fun a b => compare (key a) (key b) = .lt

instance (key : α → β) (items : List α) : Decidable (Ascending key items) :=
  inferInstanceAs (Decidable (List.Pairwise _ _))

/-- Items no two of which have equal keys. -/
def KeysDiffer (key : α → β) (items : List α) : Prop :=
  items.Pairwise fun a b => compare (key a) (key b) ≠ .eq

theorem sortedBy_perm (key : α → β) (items : List α) : (sortedBy key items).Perm items :=
  List.mergeSort_perm _ _

@[simp] theorem mem_sortedBy {key : α → β} {items : List α} {a : α} :
    a ∈ sortedBy key items ↔ a ∈ items := (sortedBy_perm key items).mem_iff

theorem Ascending.filter {key : α → β} {items : List α} (h : Ascending key items)
    (p : α → Bool) : Ascending key (items.filter p) := List.Pairwise.filter p h

theorem Ascending.map {γ : Type _} {key : α → β} {f : γ → α} {items : List γ} :
    Ascending key (items.map f) ↔ Ascending (fun a => key (f a)) items := List.pairwise_map

variable [Std.TransOrd β]

theorem KeysDiffer.perm {key : α → β} {items others : List α} (h : KeysDiffer key items)
    (hp : items.Perm others) : KeysDiffer key others :=
  hp.pairwise h fun hab hba => hab (Std.OrientedCmp.eq_symm hba)

omit [Std.TransOrd β] in
theorem Ascending.keysDiffer {key : α → β} {items : List α} (h : Ascending key items) :
    KeysDiffer key items := h.imp fun hlt heq => by rw [hlt] at heq; cases heq

/-- Sorting puts items in ascending order. -/
theorem ordered_sortedBy (key : α → β) (items : List α) :
    (sortedBy key items).Pairwise fun a b => (compare (key a) (key b)).isLE := by
  have htrans (a b c : α) (hab : (compare (key a) (key b)).isLE)
      (hbc : (compare (key b) (key c)).isLE) : (compare (key a) (key c)).isLE :=
    Std.TransOrd.isLE_trans hab hbc
  have htotal (a b : α) : (compare (key a) (key b)).isLE || (compare (key b) (key a)).isLE := by
    have hswap : compare (key b) (key a) = (compare (key a) (key b)).swap :=
      Std.OrientedOrd.eq_swap
    rw [hswap]
    cases compare (key a) (key b) <;> rfl
  exact List.pairwise_mergeSort htrans htotal items

/-- Sorting puts items with different keys in strictly ascending order. -/
theorem ascending_sortedBy {key : α → β} {items : List α} (h : KeysDiffer key items) :
    Ascending key (sortedBy key items) := by
  have hne := h.perm (sortedBy_perm key items).symm
  refine ((ordered_sortedBy key items).and hne).imp ?_
  rintro a b ⟨hle, hne⟩
  cases ho : compare (key a) (key b) with
  | lt => rfl
  | eq => exact absurd ho hne
  | gt => rw [ho] at hle; cases hle

/-- There is only one ascending arrangement of some items. -/
theorem Ascending.eq_of_perm {key : α → β} {items others : List α} (h : Ascending key items)
    (h' : Ascending key others) (hp : items.Perm others) : items = others := by
  have hno {a b : α} (hab : compare (key a) (key b) = .lt)
      (hba : compare (key b) (key a) = .lt) : a = b :=
    absurd hba (Std.OrientedCmp.not_lt_of_lt hab)
  exact hp.eq_of_pairwise (fun _ _ _ _ hab hba => hno hab hba) h h'

/-- No key comes twice. -/
theorem KeysDiffer.nodup_keys {key : α → β} {items : List α} (h : KeysDiffer key items) :
    (items.map key).Nodup := by
  refine List.pairwise_map.mpr (h.imp fun {a b} hne heq => hne ?_)
  rw [heq, Std.ReflOrd.compare_self]

theorem Ascending.nodup_keys {key : α → β} {items : List α} (h : Ascending key items) :
    (items.map key).Nodup := h.keysDiffer.nodup_keys

theorem Ascending.nodup {key : α → β} {items : List α} (h : Ascending key items) :
    items.Nodup :=
  List.Pairwise.of_map key (fun _ _ hne heq => hne (congrArg key heq)) h.nodup_keys

/-- Ascending lists that hold the same items are the same. -/
theorem Ascending.eq_of_mem_iff {key : α → β} {items others : List α} (h : Ascending key items)
    (h' : Ascending key others) (hm : ∀ a, a ∈ items ↔ a ∈ others) : items = others :=
  h.eq_of_perm h' ((List.perm_ext_iff_of_nodup h.nodup h'.nodup).mpr hm)

/-- The order in which items were found does not show when they are sorted. -/
theorem sortedBy_eq_of_perm {key : α → β} {items others : List α} (h : KeysDiffer key items)
    (hp : items.Perm others) : sortedBy key items = sortedBy key others := by
  refine (ascending_sortedBy h).eq_of_perm (ascending_sortedBy (h.perm hp)) ?_
  exact (sortedBy_perm key items).trans (hp.trans (sortedBy_perm key others).symm)

theorem sortedBy_of_ascending {key : α → β} {items : List α} (h : Ascending key items) :
    sortedBy key items = items :=
  (ascending_sortedBy h.keysDiffer).eq_of_perm h (sortedBy_perm key items)

end GoldenFiles
