import GoldenFiles.Proofs.Path.Parents
import GoldenFiles.Proofs.Text.Pieces

/-!
# Paths that are text

A path can stand in a document just if it is text. The slash is a character of
one byte and no part of any other character, so the pieces of a text are texts,
and so is everything that is put together from such pieces again: a path with a
name appended, and what is left when the name is cut off.
-/

namespace GoldenFiles

namespace Path

/-- A path that is text. -/
def IsText (p : Path) : Prop := Utf8.IsText p.bytes

theorem encodeChar_slash : Utf8.encodeChar '/' = [slash] := by decide

theorem isText_ofString (text : String) : (ofString text).IsText := Utf8.isText_encode text

theorem IsText.join {p q : Path} (hp : p.IsText) (hq : q.IsText) : (p.join q).IsText := by
  unfold Path.join
  split
  · exact hq
  · split
    · exact Utf8.IsText.append hp hq
    · exact Utf8.IsText.append hp ((Utf8.isText_separator encodeChar_slash).append hq)

theorem isText_ofPieces {first : Name} {rest : List Name}
    (h : ∀ piece ∈ first :: rest, Utf8.IsText piece) : (ofPieces first rest).IsText := by
  unfold ofPieces
  split
  · exact Utf8.isText_separator encodeChar_slash
  · exact Utf8.isText_join encodeChar_slash h

theorem IsText.trimmed {p : Path} (h : p.IsText) : p.trimmed.IsText := by
  unfold Path.trimmed
  split
  · exact ⟨[], rfl⟩
  · next first rest hb =>
      refine isText_ofPieces fun piece hpiece => ?_
      have hbody : piece ∈ p.body := by
        rw [hb]
        exact (List.cons_prefix_cons.mpr ⟨rfl, dropIgnored_prefix rest⟩).subset hpiece
      exact Utf8.IsText.of_mem_split encodeChar_slash h (mem_pieces_of_mem_body hbody)

/-- Text is what a document takes. -/
theorem isSome_decode?_iff (p : Path) : (Utf8.decode? p.bytes).isSome = true ↔ p.IsText := by
  rw [Option.isSome_iff_exists]
  constructor
  · rintro ⟨text, h⟩
    exact ⟨text.toList, (Utf8.decode?_eq_some_iff _ _).mp h⟩
  · rintro ⟨text, h⟩
    refine ⟨String.ofList text, (Utf8.decode?_eq_some_iff _ _).mpr ?_⟩
    rw [h, Utf8.encode, String.toList_ofList]

end Path

end GoldenFiles
