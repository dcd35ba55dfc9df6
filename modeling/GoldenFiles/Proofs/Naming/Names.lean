import GoldenFiles.Config.Validation
import GoldenFiles.Proofs.Naming.Grammar
import GoldenFiles.Proofs.Path.Components
import GoldenFiles.Proofs.Text.Decoding

/-!
# Names that are made from identifiers

A naming scheme without fault makes names that can be taken apart again. The
identifier of a name can be read off it, so different cases have different
files, and a name that claims to be an input is one just if it is made from an
identifier that is not empty and has no dot. The name of an output is one
ordinary component whatever the identifier is, as long as the identifier came
from a file name and so holds no slash.
-/

namespace GoldenFiles

/-- A text that can stand as an identifier in the name of a file. -/
structure PlainText (text : List Char) : Prop where
  ne_nil : text ≠ []
  no_dot : '.' ∉ text
  no_slash : '/' ∉ text

/-- An identifier that the name of a file can hold. -/
abbrev CaseId.Plain (id : CaseId) : Prop := PlainText id.text.toList

namespace Scheme

/-- What is known of a naming scheme that has no fault. -/
structure Sound (scheme : Scheme) : Prop where
  ne_nil : ∀ part : NamePart, (part.text scheme).toList ≠ []
  no_separator : ∀ part : NamePart, ∀ c ∈ (part.text scheme).toList, c ≠ '/' ∧ c ≠ '\\'
  no_dot : '.' ∉ scheme.inputMarker.toList
  no_leading_dot : startsWithDot scheme.inputExtension = false ∧
    startsWithDot scheme.expectedExtension = false
  differ : scheme.inputMarker = scheme.outputMarker →
    scheme.inputExtension ≠ scheme.expectedExtension

theorem partFault?_eq_none_iff (scheme : Scheme) (part : NamePart) :
    scheme.partFault? part = none ↔
      (part.text scheme).toList ≠ [] ∧
        ∀ c ∈ (part.text scheme).toList, c ≠ '/' ∧ c ≠ '\\' := by
  unfold partFault?
  simp only []
  split
  · next h => simp [h]
  · next h =>
      split
      · next hany =>
          refine iff_of_false (by simp) ?_
          rintro ⟨-, hno⟩
          obtain ⟨c, hc, hsep⟩ := List.any_eq_true.mp hany
          have := hno c hc
          simp_all
      · next hany =>
          simp only [List.any_eq_true, decide_eq_true_eq, not_exists, not_and, not_or] at hany
          exact iff_of_true rfl ⟨h, hany⟩

theorem mem_all_parts (part : NamePart) : part ∈ NamePart.all := by
  cases part <;> simp [NamePart.all]

/-- A scheme is accepted just if it is sound. -/
theorem fault?_eq_none_iff (scheme : Scheme) : scheme.fault? = none ↔ scheme.Sound := by
  have hparts : NamePart.all.findSome? scheme.partFault? = none ↔
      ∀ part, scheme.partFault? part = none := by
    rw [List.findSome?_eq_none_iff]
    exact ⟨fun h part => h part (mem_all_parts part), fun h part _ => h part⟩
  unfold fault?
  split
  · next fault hf =>
      refine iff_of_false (by simp) fun sound => ?_
      have hnone := hparts.mpr fun part =>
        (partFault?_eq_none_iff scheme part).mpr ⟨sound.ne_nil part, sound.no_separator part⟩
      rw [hnone] at hf
      cases hf
  · next hf =>
      have hpart := fun part => (partFault?_eq_none_iff scheme part).mp (hparts.mp hf part)
      split
      · next h => exact iff_of_false (by simp) fun sound => sound.no_dot h
      · next hdot =>
          split
          · next h =>
              refine iff_of_false (by simp) fun sound => ?_
              rw [sound.no_leading_dot.1, sound.no_leading_dot.2] at h
              simp at h
          · next hlead =>
              obtain ⟨hin, hout⟩ := not_or.mp hlead
              split
              · next h => exact iff_of_false (by simp) fun sound => sound.differ h.1 h.2
              · next hdiffer =>
                  refine iff_of_true rfl ⟨fun part => (hpart part).1, fun part => (hpart part).2,
                    hdot, ⟨by simpa using hin, by simpa using hout⟩, fun hm hx => ?_⟩
                  exact hdiffer ⟨hm, hx⟩

/-! ## Identifiers can be read off names -/

theorem affix_cancel {front back a b : String} (h : front ++ a ++ "." ++ back = front ++ b ++ "." ++ back) :
    a = b := by
  have h := congrArg String.toList h
  simp only [String.toList_append, List.append_assoc] at h
  exact String.toList_inj.mp (List.append_cancel_right (List.append_cancel_left h))

theorem outputName_injective (scheme : Scheme) : Function.Injective scheme.outputName := by
  rintro ⟨a⟩ ⟨b⟩ h
  exact congrArg CaseId.mk (affix_cancel h)

theorem toList_inputName (scheme : Scheme) (id : CaseId) : (scheme.inputName id).toList =
    scheme.inputMarker.toList ++ (id.text.toList ++ '.' :: scheme.inputExtension.toList) := by
  simp [inputName, String.toList_append]

theorem toList_outputName (scheme : Scheme) (id : CaseId) : (scheme.outputName id).toList =
    scheme.outputMarker.toList ++ (id.text.toList ++ '.' :: scheme.expectedExtension.toList) := by
  simp [outputName, String.toList_append]

/-- Whatever the scheme, a fixture's name is made from its identifier. -/
theorem of_classify_eq_fixture {scheme : Scheme} {name : String} {id : CaseId}
    (h : scheme.classify name = .fixture id) :
    name = scheme.inputName id ∧ id.text ≠ "" ∧ '.' ∉ id.text.toList := by
  have shape := (classify_eq_fixture_iff_hasShape ..).mp h
  exact ⟨shape.spelled, shape.id_ne, shape.no_dot⟩

theorem inputName_of_classify {scheme : Scheme} {name : String} {id : CaseId}
    (h : scheme.classify name = .fixture id) : name = scheme.inputName id :=
  (of_classify_eq_fixture h).1

/-- A name is a fixture's just if it is made from an identifier that is not
empty and has no dot. -/
theorem classify_eq_fixture_iff {scheme : Scheme} (sound : scheme.Sound)
    (line : '\n' ∉ scheme.inputExtension.toList) (name : String) (id : CaseId) :
    scheme.classify name = .fixture id ↔
      name = scheme.inputName id ∧ id.text ≠ "" ∧ '.' ∉ id.text.toList := by
  refine ⟨of_classify_eq_fixture, ?_⟩
  rintro ⟨hname, hid, hdot⟩
  have hext : scheme.inputExtension ≠ "" :=
    mt String.toList_eq_nil_iff.mpr (sound.ne_nil .inputExtension)
  exact (classify_eq_fixture_iff_hasShape ..).mpr ⟨hname, hid, hdot, hext, line⟩

/-- The name of a file has no slash, so the identifier of a fixture is plain. -/
theorem plain_of_classify {scheme : Scheme} {name : String} {id : CaseId}
    (h : scheme.classify name = .fixture id) (slash : '/' ∉ name.toList) : id.Plain := by
  obtain ⟨rfl, hid, hdot⟩ := of_classify_eq_fixture h
  refine ⟨mt String.toList_eq_nil_iff.mp hid, hdot, fun hmem => slash ?_⟩
  rw [toList_inputName]
  exact List.mem_append_right _ (List.mem_append_left _ hmem)

/-! ## Outputs are ordinary components -/

theorem slash_mem_encode_iff (text : String) :
    Path.slash ∈ Utf8.encode text ↔ '/' ∈ text.toList :=
  Utf8.mem_encodeChars_iff (by decide) text.toList

/-- A name with a letter before and after a dot and no slash is one component. -/
theorem normalName_of_affixes {front middle back : String} (hfront : front.toList ≠ [])
    (hback : back.toList ≠ [])
    (hslash : ∀ c ∈ front.toList ++ middle.toList ++ back.toList, c ≠ '/') :
    Path.NormalName (Utf8.encode (front ++ middle ++ "." ++ back)) := by
  have hlong : 3 ≤ (Utf8.encode (front ++ middle ++ "." ++ back)).length := by
    refine Nat.le_trans ?_ (Utf8.length_le_length_encode _)
    have := List.length_pos_iff.mpr hfront
    have := List.length_pos_iff.mpr hback
    simp only [String.toList_append, List.length_append] at *
    have : ".".toList.length = 1 := rfl
    omega
  refine ⟨?_, ?_, ?_, ?_⟩
  · intro h; rw [h] at hlong; simp at hlong
  · intro h; rw [h] at hlong; simp [Path.dot] at hlong
  · intro h; rw [h] at hlong; simp [Path.dotDot] at hlong
  · rw [slash_mem_encode_iff]
    simp only [String.toList_append, List.mem_append]
    rintro (((h | h) | h) | h)
    · exact hslash '/' (by simp [h]) rfl
    · exact hslash '/' (by simp [h]) rfl
    · simp at h
    · exact hslash '/' (by simp [h]) rfl

theorem Sound.outputName_normal {scheme : Scheme} (sound : scheme.Sound) {id : CaseId}
    (hid : '/' ∉ id.text.toList) : Path.NormalName (Utf8.encode (scheme.outputName id)) := by
  refine normalName_of_affixes (sound.ne_nil .outputMarker) (sound.ne_nil .expectedExtension) ?_
  intro c hc
  simp only [List.mem_append] at hc
  rcases hc with (hc | hc) | hc
  · exact (sound.no_separator .outputMarker c hc).1
  · rintro rfl; exact hid hc
  · exact (sound.no_separator .expectedExtension c hc).1

end Scheme

end GoldenFiles
