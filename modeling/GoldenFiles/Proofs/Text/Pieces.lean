import GoldenFiles.Proofs.Text.Decoding
import GoldenFiles.Proofs.Text.Separated

/-!
# The pieces of a text

A separator that is written as one byte is part of no other character, so it does not
matter whether a text is cut before or after it is written: the bytes are cut where the
characters are. Hence the pieces of a text are texts, be they lines or names between
slashes, and so is what is joined from them again.
-/

namespace GoldenFiles.Utf8

/-- Bytes that are text. -/
def IsText (bytes : Bytes) : Prop := ∃ text, bytes = encodeChars text

theorem isText_encode (text : String) : IsText (encode text) := ⟨text.toList, rfl⟩

theorem IsText.append {a b : Bytes} (ha : IsText a) (hb : IsText b) : IsText (a ++ b) := by
  obtain ⟨s, rfl⟩ := ha
  obtain ⟨t, rfl⟩ := hb
  exact ⟨s ++ t, List.flatMap_append.symm⟩

theorem decodeLossyChars_encodeChars (text : List Char) :
    decodeLossyChars (encodeChars text) = text := by
  rw [decodeLossyChars, scan_encodeChars, List.map_map]
  exact List.map_id text

/-- A text is read and written again without loss. -/
theorem IsText.encodeChars_decodeLossyChars {bytes : Bytes} (h : IsText bytes) :
    encodeChars (decodeLossyChars bytes) = bytes := by
  obtain ⟨text, rfl⟩ := h
  rw [decodeLossyChars_encodeChars]

section Separator

variable {sep : UInt8} {c : Char} (one : encodeChar c = [sep])

include one

theorem of_encodeChar_eq : ∃ n, n < 0x80 ∧ sep = UInt8.ofNat n ∧ c = Char.ofNat n := by
  rw [encodeChar] at one
  split at one
  · next h => exact ⟨c.toNat, h, (List.cons.inj one).1.symm, (ofNat_toNat_char c).symm⟩
  · split at one
    · simp at one
    · split at one <;> simp at one

theorem isText_separator : IsText [sep] := ⟨[c], by rw [encodeChars, List.flatMap_singleton, one]⟩

/-- The separator's byte is written for the separator alone. -/
theorem sep_mem_encodeChars_iff (text : List Char) : sep ∈ encodeChars text ↔ c ∈ text := by
  obtain ⟨n, hn, rfl, rfl⟩ := of_encodeChar_eq one
  exact mem_encodeChars_iff hn text

theorem sep_not_mem_encodeChar {d : Char} (h : d ≠ c) : sep ∉ encodeChar d := by
  have hone : encodeChars [d] = encodeChar d := List.flatMap_singleton ..
  rw [← hone, sep_mem_encodeChars_iff one, List.mem_singleton]
  exact Ne.symm h

/-- Bytes are cut where the characters are. -/
theorem split_encodeChars (text : List Char) :
    Separated.split sep (encodeChars text) = (Separated.split c text).map encodeChars := by
  induction text with
  | nil => rfl
  | cons d text ih =>
      rw [encodeChars, List.flatMap_cons, ← encodeChars, Separated.split_cons]
      by_cases hd : d = c
      · rw [if_pos hd, hd, one, List.singleton_append, Separated.split_cons, if_pos rfl, ih]
        rfl
      · rw [if_neg hd]
        cases hs : Separated.split c text with
        | nil => exact absurd hs (Separated.split_ne_nil _ _)
        | cons first rest =>
            rw [hs, List.map_cons] at ih
            rw [Separated.split_append_of_not_mem (sep_not_mem_encodeChar one hd) ih]
            rfl

/-- The pieces of a text are texts. -/
theorem IsText.of_mem_split {bytes piece : Bytes} (h : IsText bytes)
    (hmem : piece ∈ Separated.split sep bytes) : IsText piece := by
  obtain ⟨text, rfl⟩ := h
  rw [split_encodeChars one] at hmem
  obtain ⟨part, -, rfl⟩ := List.mem_map.mp hmem
  exact ⟨part, rfl⟩

theorem isText_join {pieces : List Bytes} (h : ∀ piece ∈ pieces, IsText piece) :
    IsText (Separated.join sep pieces) := by
  induction pieces with
  | nil => exact ⟨[], rfl⟩
  | cons piece pieces ih =>
      obtain ⟨hpiece, hrest⟩ := List.forall_mem_cons.mp h
      cases pieces with
      | nil =>
          rw [show Separated.join sep [piece] = piece by simp [Separated.join, List.intercalate]]
          exact hpiece
      | cons next rest =>
          rw [show Separated.join sep (piece :: next :: rest) =
            piece ++ ([sep] ++ Separated.join sep (next :: rest)) by
              simp [Separated.join, List.intercalate]]
          exact hpiece.append ((isText_separator one).append (ih hrest))

/-- A text without a separator at its end is a text. -/
theorem IsText.dropFinal {bytes : Bytes} (h : IsText bytes) :
    IsText (Separated.dropFinal sep bytes) := by
  by_cases hlast : bytes.getLast? = some sep
  · obtain ⟨init, rfl⟩ := List.getLast?_eq_some_iff.mp hlast
    rw [Separated.dropFinal_concat, ← Separated.join_split sep init]
    refine isText_join one fun piece hpiece => h.of_mem_split one ?_
    rw [Separated.split_append_cons]
    exact List.mem_append_left _ hpiece
  · rwa [Separated.dropFinal_of_ne hlast]

end Separator

end GoldenFiles.Utf8
