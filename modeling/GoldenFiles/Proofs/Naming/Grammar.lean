import GoldenFiles.Naming.Classification
import Mathlib.Data.List.TakeWhile

/-!
# The grammar of input names

A name that has the shape of an input's is the marker, an identifier, a dot and
an extension, one after the other. The marker is taken as it is written, whatever
characters it is made of. The identifier ends at the first dot behind the marker,
so a name has this shape in one way at most; the extension may have further dots.

`Reads` is the rule book: which of the four answers a name deserves, said without
saying how to find out. Every name deserves just one of them, and that is the one
that `classify` gives.
-/

namespace GoldenFiles.Scheme

/-- A name is the marker, an identifier, a dot and an extension. -/
structure HasShape (scheme : Scheme) (name : String) (id : CaseId) (extension : String) : Prop where
  spelled : name = scheme.inputMarker ++ id.text ++ "." ++ extension
  id_ne : id.text ≠ ""
  no_dot : '.' ∉ id.text.toList
  extension_ne : extension ≠ ""
  one_line : '\n' ∉ extension.toList

/-- What the grammar says of a name. -/
inductive Reads (scheme : Scheme) (name : String) : Classification → Prop where
  | unrelated (unmarked : ¬scheme.inputMarker.toList <+: name.toList) : Reads scheme name .unrelated
  | fixture {id : CaseId} (shape : scheme.HasShape name id scheme.inputExtension) :
      Reads scheme name (.fixture id)
  | extension {id : CaseId} {found : String} (shape : scheme.HasShape name id found)
      (other : found ≠ scheme.inputExtension) : Reads scheme name (.malformed (.extension found))
  | shape (marked : scheme.inputMarker.toList <+: name.toList)
      (shapeless : ∀ id extension, ¬scheme.HasShape name id extension) :
      Reads scheme name (.malformed .shape)

/-! ## Cutting a name -/

theorem dropLeading?_eq_some_iff (marker text rest : List Char) :
    dropLeading? marker text = some rest ↔ text = marker ++ rest := by
  induction marker generalizing text with
  | nil => rw [dropLeading?, Option.some.injEq, List.nil_append]
  | cons m marker ih =>
      cases text with
      | nil => simp [dropLeading?]
      | cons c text =>
          rw [dropLeading?, List.cons_append]
          split
          · next h => rw [ih, h, List.cons.injEq, and_iff_right rfl]
          · next h => simp [Ne.symm h]

theorem dropLeading?_eq_none_iff (marker text : List Char) :
    dropLeading? marker text = none ↔ ¬marker <+: text := by
  rw [Option.eq_none_iff_forall_ne_some]
  simp only [ne_eq, dropLeading?_eq_some_iff, List.IsPrefix, not_exists]
  exact forall_congr' fun rest => not_congr eq_comm

theorem takeWhile_dot {id : List Char} (h : '.' ∉ id) (extension : List Char) :
    (id ++ '.' :: extension).takeWhile (· ≠ '.') = id ∧
      (id ++ '.' :: extension).dropWhile (· ≠ '.') = '.' :: extension := by
  induction id with
  | nil => simp
  | cons c id ih =>
      obtain ⟨hc, hid⟩ := not_or.mp (mt List.mem_cons.mpr h)
      obtain ⟨htake, hdrop⟩ := ih hid
      rw [List.cons_append, List.takeWhile_cons_of_pos (by simpa using Ne.symm hc),
        List.dropWhile_cons_of_pos (by simpa using Ne.symm hc), htake, hdrop]
      exact ⟨rfl, rfl⟩

/-- The first dot of a text can be in one place only. -/
theorem append_dot_inj {a b x y : List Char} (ha : '.' ∉ a) (hb : '.' ∉ b) :
    a ++ '.' :: x = b ++ '.' :: y ↔ a = b ∧ x = y := by
  constructor
  · intro h
    have htake := congrArg (List.takeWhile (· ≠ '.')) h
    have hdrop := congrArg (List.dropWhile (· ≠ '.')) h
    rw [(takeWhile_dot ha x).1, (takeWhile_dot hb y).1] at htake
    rw [(takeWhile_dot ha x).2, (takeWhile_dot hb y).2] at hdrop
    exact ⟨htake, (List.cons.inj hdrop).2⟩
  · rintro ⟨rfl, rfl⟩
    rfl

theorem idAndExtension?_eq_some_iff (rest id extension : List Char) :
    idAndExtension? rest = some (id, extension) ↔
      rest = id ++ '.' :: extension ∧ '.' ∉ id ∧ id ≠ [] ∧ extension ≠ [] ∧ '\n' ∉ extension := by
  constructor
  · intro h
    unfold idAndExtension? at h
    simp only [] at h
    split at h
    · next dot ext hdrop =>
        split at h
        · cases h
        · next hbad =>
            obtain ⟨hid, hext, hline⟩ := by simpa only [not_or] using hbad
            obtain ⟨rfl, rfl⟩ := Prod.mk.inj (Option.some.inj h)
            obtain rfl : dot = '.' := by
              have := List.head?_dropWhile_not (fun c => decide (c ≠ '.')) rest
              rw [hdrop] at this
              simpa using this
            refine ⟨?_, ?_, hid, hext, hline⟩
            · rw [← hdrop, List.takeWhile_append_dropWhile]
            · intro hmem
              simpa using List.mem_takeWhile_imp hmem
    · cases h
  · rintro ⟨rfl, hdot, hid, hext, hline⟩
    obtain ⟨htake, hdrop⟩ := takeWhile_dot hdot extension
    unfold idAndExtension?
    simp only [htake, hdrop]
    rw [if_neg]
    simp [hid, hext, hline]

/-! ## A name has one shape at most -/

section Shape

variable {scheme : Scheme} {name : String} {id other : CaseId} {extension found : String}

/-- The shape of a name, seen in what follows the marker. -/
theorem hasShape_iff : scheme.HasShape name id extension ↔
    ∃ rest, name.toList = scheme.inputMarker.toList ++ rest ∧
      idAndExtension? rest = some (id.text.toList, extension.toList) := by
  simp only [idAndExtension?_eq_some_iff]
  constructor
  · rintro ⟨rfl, hid, hdot, hext, hline⟩
    refine ⟨_, by simp [String.toList_append], rfl, hdot, ?_, ?_, hline⟩
    · exact mt String.toList_eq_nil_iff.mp hid
    · exact mt String.toList_eq_nil_iff.mp hext
  · rintro ⟨_, hname, rfl, hdot, hid, hext, hline⟩
    refine ⟨?_, mt String.toList_eq_nil_iff.mpr hid, hdot, mt String.toList_eq_nil_iff.mpr hext,
      hline⟩
    rw [← String.toList_inj, hname]
    simp [String.toList_append]

theorem HasShape.marked (h : scheme.HasShape name id extension) :
    scheme.inputMarker.toList <+: name.toList := by
  obtain ⟨rest, hname, -⟩ := hasShape_iff.mp h
  exact ⟨rest, hname.symm⟩

/-- The identifier and the extension of a name can be read off it. -/
theorem HasShape.unique (h : scheme.HasShape name id extension)
    (h' : scheme.HasShape name other found) : id = other ∧ extension = found := by
  obtain ⟨rest, hname, hcut⟩ := hasShape_iff.mp h
  obtain ⟨rest', hname', hcut'⟩ := hasShape_iff.mp h'
  obtain rfl : rest = rest' := List.append_cancel_left (hname.symm.trans hname')
  obtain ⟨hid, hext⟩ := Prod.mk.inj (Option.some.inj (hcut.symm.trans hcut'))
  obtain ⟨text⟩ := id
  obtain ⟨text'⟩ := other
  exact ⟨congrArg CaseId.mk (String.toList_inj.mp hid), String.toList_inj.mp hext⟩

end Shape

/-! ## The answer that a name deserves -/

section Answer

variable {scheme : Scheme} {name : String}

/-- No name deserves two answers. -/
theorem Reads.unique {a b : Classification} (ha : scheme.Reads name a) (hb : scheme.Reads name b) :
    a = b := by
  cases ha with
  | unrelated unmarked =>
      cases hb with
      | unrelated => rfl
      | fixture shape | extension shape => exact absurd shape.marked unmarked
      | shape marked => exact absurd marked unmarked
  | fixture shape =>
      cases hb with
      | unrelated unmarked => exact absurd shape.marked unmarked
      | fixture shape' => rw [(shape.unique shape').1]
      | extension shape' other => exact absurd (shape'.unique shape).2 other
      | shape _ shapeless => exact absurd shape (shapeless _ _)
  | extension shape other =>
      cases hb with
      | unrelated unmarked => exact absurd shape.marked unmarked
      | fixture shape' => exact absurd (shape.unique shape').2 other
      | extension shape' => rw [(shape.unique shape').2]
      | shape _ shapeless => exact absurd shape (shapeless _ _)
  | shape marked shapeless =>
      cases hb with
      | unrelated unmarked => exact absurd marked unmarked
      | fixture shape | extension shape => exact absurd shape (shapeless _ _)
      | shape => rfl

/-- The answer that a name gets is one that it deserves. -/
theorem reads_classify (scheme : Scheme) (name : String) :
    scheme.Reads name (scheme.classify name) := by
  unfold classify
  split
  · next hdrop => exact .unrelated ((dropLeading?_eq_none_iff ..).mp hdrop)
  · next rest hdrop =>
      have hname := (dropLeading?_eq_some_iff ..).mp hdrop
      split
      · next hcut =>
          refine .shape ⟨rest, hname.symm⟩ fun id extension shape => ?_
          obtain ⟨rest', hname', hcut'⟩ := hasShape_iff.mp shape
          obtain rfl : rest = rest' := List.append_cancel_left (hname.symm.trans hname')
          rw [hcut] at hcut'
          cases hcut'
      · next id extension hcut =>
          have shape : scheme.HasShape name ⟨.ofList id⟩ (.ofList extension) :=
            hasShape_iff.mpr ⟨rest, hname, by rw [String.toList_ofList, String.toList_ofList, hcut]⟩
          split
          · next heq =>
              rw [heq, String.ofList_toList] at shape
              exact .fixture shape
          · next hne =>
              refine .extension shape fun heq => hne ?_
              rw [← heq, String.toList_ofList]

theorem classify_eq_iff {answer : Classification} :
    scheme.classify name = answer ↔ scheme.Reads name answer :=
  ⟨fun h => h ▸ reads_classify scheme name, (reads_classify scheme name).unique⟩

/-- A name is unrelated just if it does not start with the input marker. -/
theorem classify_eq_unrelated_iff (scheme : Scheme) (name : String) :
    scheme.classify name = .unrelated ↔ ¬scheme.inputMarker.toList <+: name.toList := by
  rw [classify_eq_iff]
  exact ⟨fun | .unrelated unmarked => unmarked, .unrelated⟩

/-- A name is a fixture's just if it has the shape of one, with the input extension. -/
theorem classify_eq_fixture_iff_hasShape (scheme : Scheme) (name : String) (id : CaseId) :
    scheme.classify name = .fixture id ↔ scheme.HasShape name id scheme.inputExtension := by
  rw [classify_eq_iff]
  exact ⟨fun | .fixture shape => shape, .fixture⟩

/-- The extension is to blame just if everything else is in its place. -/
theorem classify_eq_extension_iff (scheme : Scheme) (name found : String) :
    scheme.classify name = .malformed (.extension found) ↔
      (∃ id, scheme.HasShape name id found) ∧ found ≠ scheme.inputExtension := by
  rw [classify_eq_iff]
  constructor
  · rintro (_ | _ | ⟨shape, other⟩ | _)
    exact ⟨⟨_, shape⟩, other⟩
  · rintro ⟨⟨id, shape⟩, other⟩
    exact .extension shape other

theorem classify_eq_shape_iff (scheme : Scheme) (name : String) :
    scheme.classify name = .malformed .shape ↔
      scheme.inputMarker.toList <+: name.toList ∧
        ∀ id extension, ¬scheme.HasShape name id extension := by
  rw [classify_eq_iff]
  constructor
  · rintro (_ | _ | _ | ⟨marked, shapeless⟩)
    exact ⟨marked, shapeless⟩
  · rintro ⟨marked, shapeless⟩
    exact .shape marked shapeless

/-- What a malformed name is told says how it is malformed. -/
theorem Malformed.message_injective (scheme : Scheme) :
    Function.Injective (Malformed.message scheme) := by
  intro a b h
  have h := congrArg String.toList h
  cases a with
  | shape =>
      cases b with
      | shape => rfl
      | extension found => simp [message, String.toList_append] at h
  | extension found =>
      cases b with
      | shape => simp [message, String.toList_append] at h
      | extension other =>
          simp only [message, String.toList_append, List.append_assoc] at h
          have hfound := List.append_cancel_right (List.append_cancel_left h)
          exact congrArg extension (String.toList_inj.mp hfound)

end Answer

/-- Names are classified just as the grammar says, whatever the markers and
extensions are, and what a malformed name is told says why it is one. -/
theorem classify_follows_the_grammar (scheme : Scheme) (name : String) :
    (scheme.classify name = .unrelated ↔ ¬scheme.inputMarker.toList <+: name.toList) ∧
    (∀ id, scheme.classify name = .fixture id ↔ scheme.HasShape name id scheme.inputExtension) ∧
    (∀ id other, scheme.HasShape name id scheme.inputExtension →
      scheme.HasShape name other scheme.inputExtension → id = other) ∧
    (∀ found, scheme.classify name = .malformed (.extension found) ↔
      (∃ id, scheme.HasShape name id found) ∧ found ≠ scheme.inputExtension) ∧
    (scheme.classify name = .malformed .shape ↔
      scheme.inputMarker.toList <+: name.toList ∧
        ∀ id extension, ¬scheme.HasShape name id extension) ∧
    Function.Injective (Malformed.message scheme) := by
  refine ⟨classify_eq_unrelated_iff scheme name, classify_eq_fixture_iff_hasShape scheme name, ?_,
    classify_eq_extension_iff scheme name, classify_eq_shape_iff scheme name,
    Malformed.message_injective scheme⟩
  exact fun id other shape shape' => (shape.unique shape').1

/-- A marker with a character that patterns give a meaning. -/
def plusScheme : Scheme := { inputMarker := "t+" }

theorem classify_follows_the_grammar_example :
    plusScheme.HasShape "t+4.py" ⟨"4"⟩ "py" ∧ plusScheme.classify "t+4.py" = .fixture ⟨"4"⟩ ∧
      plusScheme.classify "tt4.py" = .unrelated ∧
      plusScheme.classify "t+4\n.py.bak" = .malformed (.extension "py.bak") ∧
      ∀ other, plusScheme.HasShape "t+4.py" other "py" → ⟨"4"⟩ = other := by
  have shape : plusScheme.HasShape "t+4.py" ⟨"4"⟩ "py" :=
    ⟨by decide, by decide, by decide, by decide, by decide⟩
  have longer : plusScheme.HasShape "t+4\n.py.bak" ⟨"4\n"⟩ "py.bak" :=
    ⟨by decide, by decide, by decide, by decide, by decide⟩
  obtain ⟨-, hfixture, hunique, -⟩ := classify_follows_the_grammar plusScheme "t+4.py"
  obtain ⟨hunrelated, -⟩ := classify_follows_the_grammar plusScheme "tt4.py"
  obtain ⟨-, -, -, hextension, -⟩ := classify_follows_the_grammar plusScheme "t+4\n.py.bak"
  exact ⟨shape, (hfixture _).mpr shape, hunrelated.mpr (by decide),
    (hextension _).mpr ⟨⟨_, longer⟩, by decide⟩, fun other h => hunique _ other shape h⟩

end GoldenFiles.Scheme
