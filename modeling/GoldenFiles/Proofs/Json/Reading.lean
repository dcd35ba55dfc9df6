import GoldenFiles.Proofs.Json.Grammar
import Mathlib.Data.List.Chain

/-!
# Reading JSON documents

A reader in two passes, one for each layer of the grammar: `lex?` cuts a text into
tokens and `value?` builds a value of them. Both stop when they run out of fuel,
and the length of what they read is enough.

Whatever spells a value is read as that value. A number is read as far as there
are characters of numbers, and this is where it ends, for in the tokens of a
value one of any two neighbours is a mark: a bracket, a comma or a colon. So no
text is a document for two values.
-/

namespace GoldenFiles.Json

/-! ## Characters to tokens -/

/-- The characters of numbers. -/
def isNumeric (c : Char) : Bool :=
  c.isDigit ∨ c = '-' ∨ c = '+' ∨ c = '.' ∨ c = 'e' ∨ c = 'E'

/-- What a string says up to the quote that ends it, and what follows. -/
def unquote? : List Char → Option (List Char × List Char)
  | '\x22' :: rest => some ([], rest)
  | '\\' :: 'u' :: a :: b :: c :: d :: rest =>
      (numbered? a b c d).bind fun x => (unquote? rest).map fun (text, rest) => (x :: text, rest)
  | '\\' :: e :: rest =>
      (short? e).bind fun x => (unquote? rest).map fun (text, rest) => (x :: text, rest)
  | c :: rest => (unquote? rest).map fun (text, rest) => (c :: text, rest)
  | [] => none

/-- The token at the start of a text, and what follows. -/
def next? : List Char → Option (Token × List Char)
  | '[' :: rest => some (.openArray, rest)
  | ']' :: rest => some (.closeArray, rest)
  | '\x7b' :: rest => some (.openObject, rest)
  | '\x7d' :: rest => some (.closeObject, rest)
  | ',' :: rest => some (.comma, rest)
  | ':' :: rest => some (.colon, rest)
  | 'n' :: 'u' :: 'l' :: 'l' :: rest => some (.null, rest)
  | '\x22' :: rest => (unquote? rest).map fun (text, rest) => (.string (.ofList text), rest)
  | text =>
      let literal := text.takeWhile isNumeric
      if literal = [] then none
      else some (.number (.ofList literal), text.dropWhile isNumeric)

/-- The tokens of a text. -/
def lex? : Nat → List Char → Option (List Token)
  | _, [] => some []
  | 0, _ :: _ => none
  | fuel + 1, c :: text =>
      if isBlank c then lex? fuel text
      else (next? (c :: text)).bind fun (t, rest) => (lex? fuel rest).map (t :: ·)

theorem isNumeric_of_isDigit {c : Char} (h : c.isDigit) : isNumeric c := by simp [isNumeric, h]

theorem isNumeric_of_mem_numeral {chars : List Char} (h : Numeral chars) :
    ∀ c ∈ chars, isNumeric c := by
  have hsigns : ∀ sign : List Char, sign = [] ∨ sign = ['+'] ∨ sign = ['-'] →
      ∀ c ∈ sign, isNumeric c := by
    rintro sign (rfl | rfl | rfl)
    · nofun
    · exact List.forall_mem_singleton.mpr rfl
    · exact List.forall_mem_singleton.mpr rfl
  have hdigits : ∀ ds, Digits ds → ∀ c ∈ ds, isNumeric c :=
    fun ds h c hc => isNumeric_of_isDigit (h.digits c hc)
  obtain ⟨hsign, hwhole, hfraction, hpower⟩ := h
  intro c hc
  simp only [List.mem_append] at hc
  obtain hc | hc | hc | hc := hc
  · exact hsigns _ (hsign.imp id .inr) c hc
  · exact hdigits _ hwhole.toDigits c hc
  · cases hfraction with
    | none => cases hc
    | digits h =>
        obtain rfl | hc := List.mem_cons.mp hc
        · rfl
        · exact hdigits _ h c hc
  · cases hpower with
    | none => cases hc
    | digits he hs h =>
        obtain rfl | hc := List.mem_cons.mp hc
        · obtain rfl | rfl := he <;> rfl
        · obtain hc | hc := List.mem_append.mp hc
          · exact hsigns _ hs c hc
          · exact hdigits _ h c hc

theorem numeral_ne_nil {chars : List Char} (h : Numeral chars) : chars ≠ [] := by
  obtain ⟨hsign, hwhole, hfraction, hpower⟩ := h
  intro hnil
  simp only [List.append_eq_nil_iff] at hnil
  exact hwhole.ne_nil hnil.2.1

theorem unquote?_append {c : Char} {chars : List Char} (h : SpelledChar c chars)
    (rest : List Char) : unquote? (chars ++ rest) =
      (unquote? rest).map fun (text, rest) => (c :: text, rest) := by
  cases h with
  | itself control quote backslash =>
      rw [List.singleton_append, unquote?]
      · exact quote
      · exact fun _ _ _ _ _ h => absurd h backslash
      · exact fun _ _ h => absurd h backslash
  | @short e h =>
      -- the letter of a code is none of the characters behind a backslash
      have hne : e ≠ 'u' := by
        rintro rfl
        cases h
      rw [List.cons_append, List.singleton_append, unquote?, h, Option.bind_some]
      exact fun _ _ _ _ _ h => absurd h hne
  | numbered h => simp only [List.cons_append, List.nil_append, unquote?, h, Option.bind_some]

theorem unquote?_of_spelled {text chars : List Char} (h : SpelledChars text chars)
    (rest : List Char) : unquote? (chars ++ '\x22' :: rest) = some (text, rest) := by
  induction h with
  | nil => rfl
  | cons hc _ ih => rw [List.append_assoc, unquote?_append hc, ih, Option.map_some]

theorem next?_append {t : Token} {chars rest : List Char} (h : t.Spelled chars)
    (ends : ∀ literal, t = .number literal → ∀ c ∈ rest.head?, ¬isNumeric c) :
    next? (chars ++ rest) = some (t, rest) := by
  cases h with
  | openArray | closeArray | openObject | closeObject | comma | colon | null => rfl
  | @string text chars h =>
      rw [List.cons_append, List.append_assoc, next?, List.singleton_append, unquote?_of_spelled h]
      simp only [Option.map_some, String.ofList_toList]
  | @number literal h =>
      have hchars := isNumeric_of_mem_numeral h
      have hrest : rest.takeWhile isNumeric = [] ∧ rest.dropWhile isNumeric = rest := by
        cases rest with
        | nil => exact ⟨rfl, rfl⟩
        | cons c rest =>
            have hc := ends literal rfl c rfl
            exact ⟨List.takeWhile_cons_of_neg hc, List.dropWhile_cons_of_neg hc⟩
      have hfirst : ∀ c tail, literal.toList ++ rest = c :: tail → isNumeric c := by
        intro c tail heq
        cases hliteral : literal.toList with
        | nil => exact absurd hliteral (numeral_ne_nil h)
        | cons d ds =>
            rw [hliteral, List.cons_append] at heq
            exact (List.cons.inj heq).1 ▸ hchars d (by rw [hliteral]; exact List.mem_cons_self)
      unfold next?
      split
      iterate 8
        · next heq => exact absurd (hfirst _ _ heq) (by decide)
      rw [List.takeWhile_append_of_pos hchars, List.dropWhile_append_of_pos hchars, hrest.1, hrest.2,
        List.append_nil, if_neg (numeral_ne_nil h), String.ofList_toList]

theorem Token.Spelled.exists_cons {t : Token} {chars : List Char} (h : t.Spelled chars) :
    ∃ c rest, chars = c :: rest ∧ ¬isBlank c := by
  cases h with
  | @number literal h =>
      cases hliteral : literal.toList with
      | nil => exact absurd hliteral (numeral_ne_nil h)
      | cons c rest =>
          refine ⟨c, rest, rfl, fun hblank => ?_⟩
          have hc := isNumeric_of_mem_numeral h c (by rw [hliteral]; exact List.mem_cons_self)
          simp only [isBlank, decide_eq_true_eq] at hblank
          obtain rfl | rfl | rfl | rfl := hblank <;> cases hc
  | _ => exact ⟨_, _, rfl, by decide⟩

/-- The tokens that are not a word, a number or a string. -/
def Token.IsMark : Token → Prop
  | .null | .number _ | .string _ => False
  | _ => True

/-- One of two neighbours is a mark. -/
def Apart (a b : Token) : Prop := a.IsMark ∨ b.IsMark

theorem not_isNumeric_of_lexes {ts : List Token} {text : List Char} (h : Lexes ts text)
    (mark : ∀ t ∈ ts.head?, t.IsMark) : ∀ c ∈ text.head?, ¬isNumeric c := by
  cases h with
  | nil => nofun
  | blank hblank _ =>
      rintro c ⟨⟩ hc
      simp only [isBlank, decide_eq_true_eq] at hblank
      obtain rfl | rfl | rfl | rfl := hblank <;> cases hc
  | token h _ =>
      have hmark := mark _ rfl
      cases h with
      | number _ | string _ | null => exact hmark.elim
      | _ => rintro c ⟨⟩; decide

/-- A text of tokens that stand apart is cut into these tokens. -/
theorem lex?_of_lexes {ts : List Token} {text : List Char} (h : Lexes ts text)
    (apart : ts.IsChain Apart) {fuel : Nat} (hfuel : text.length ≤ fuel) :
    lex? fuel text = some ts := by
  induction h generalizing fuel with
  | nil => cases fuel <;> rfl
  | blank hblank _ ih =>
      cases fuel with
      | zero => cases hfuel
      | succ fuel =>
          rw [lex?, if_pos hblank]
          exact ih apart (Nat.le_of_succ_le_succ hfuel)
  | @token t tokens chars text h more ih =>
      obtain ⟨hnext, hapart⟩ := List.isChain_cons.mp apart
      have hends : ∀ literal, t = .number literal → ∀ c ∈ text.head?, ¬isNumeric c := by
        rintro literal rfl
        exact not_isNumeric_of_lexes more fun t ht => (hnext t ht).resolve_left id
      have hread := next?_append h hends
      obtain ⟨c, rest, rfl, hblank⟩ := h.exists_cons
      cases fuel with
      | zero => cases hfuel
      | succ fuel =>
          have hlength : text.length ≤ fuel := by
            rw [List.length_append, List.length_cons] at hfuel
            omega
          rw [List.cons_append] at hread ⊢
          rw [lex?, if_neg hblank, hread]
          simp only [Option.bind_some, ih hapart hlength, Option.map_some]

/-! ## Tokens to values -/

section Lists

variable {α : Type} (read : List Token → Option (α × List Token)) (close : Token)

/-- Things with commas between them up to the bracket that ends them, and what follows. -/
def many? : Nat → List Token → Option (List α × List Token)
  | 0, _ => none
  | fuel + 1, ts =>
      match read ts with
      | some (x, t :: rest) =>
          if t = .comma then (many? fuel rest).map fun (xs, rest) => (x :: xs, rest)
          else if t = close then some ([x], rest)
          else none
      | _ => none

/-- The same if there may be none. -/
def any? (fuel : Nat) : List Token → Option (List α × List Token)
  | t :: rest => if t = close then some ([], rest) else many? read close fuel (t :: rest)
  | [] => none

end Lists

/-- A member of an object, and what follows. -/
def keyed? (read : List Token → Option (Json × List Token)) :
    List Token → Option ((String × Json) × List Token)
  | .string key :: .colon :: ts => (read ts).map fun (v, rest) => ((key, v), rest)
  | _ => none

/-- The value at the start of tokens, and what follows. -/
def value? : Nat → List Token → Option (Json × List Token)
  | _ + 1, .null :: rest => some (.null, rest)
  | _ + 1, .number literal :: rest => some (.number literal, rest)
  | _ + 1, .string text :: rest => some (.string text, rest)
  | fuel + 1, .openArray :: rest =>
      (any? (value? fuel) .closeArray fuel rest).map fun (items, rest) => (.array items, rest)
  | fuel + 1, .openObject :: rest =>
      (any? (keyed? (value? fuel)) .closeObject fuel rest).map fun (members, rest) =>
        (.object members, rest)
  | _, _ => none

/-- The value that a text is a document for. -/
def read? (text : List Char) : Option Json :=
  (lex? text.length text).bind fun ts =>
    match value? ts.length ts with
    | some (v, []) => some v
    | _ => none

section Lists

variable {α : Type} {read : List Token → Option (α × List Token)} {close : Token}
  {ts : α → List Token} {xs : List α} {fuel : Nat}

theorem many?_append (hclose : close ≠ .comma) (hne : xs ≠ [])
    (h : ∀ x ∈ xs, ∀ rest, read (ts x ++ rest) = some (x, rest)) (hfuel : xs.length ≤ fuel)
    (rest : List Token) :
    many? read close fuel (listed ts xs ++ close :: rest) = some (xs, rest) := by
  induction xs generalizing fuel with
  | nil => exact absurd rfl hne
  | cons x xs ih =>
      obtain ⟨hx, hrest⟩ := List.forall_mem_cons.mp h
      rw [List.length_cons] at hfuel
      obtain ⟨fuel, rfl⟩ := Nat.exists_eq_add_one_of_ne_zero (Nat.ne_zero_of_lt hfuel)
      cases xs with
      | nil =>
          rw [listed_singleton, many?, hx]
          simp only [hclose, if_false, if_true]
      | cons y xs =>
          have hmore := ih (List.cons_ne_nil y xs) hrest (Nat.le_of_succ_le_succ hfuel)
          rw [listed_cons_cons, List.append_assoc, List.cons_append, many?, hx]
          simp only [hmore, if_true, Option.map_some]

theorem any?_append (hclose : close ≠ .comma)
    (hopen : ∀ x ∈ xs, ∃ t rest, ts x = t :: rest ∧ t ≠ close)
    (h : ∀ x ∈ xs, ∀ rest, read (ts x ++ rest) = some (x, rest)) (hfuel : xs.length ≤ fuel)
    (rest : List Token) :
    any? read close fuel (listed ts xs ++ close :: rest) = some (xs, rest) := by
  cases xs with
  | nil => exact if_pos rfl
  | cons x xs =>
      have hmany := many?_append hclose (List.cons_ne_nil x xs) h hfuel rest
      have hfirst : ∃ t rest, listed ts (x :: xs) = t :: rest ∧ t ≠ close := by
        obtain ⟨t, tail, htokens, hne⟩ := hopen x List.mem_cons_self
        cases xs with
        | nil => exact ⟨t, tail, by rw [listed_singleton, htokens], hne⟩
        | cons y xs => exact ⟨t, _, by rw [listed_cons_cons, htokens, List.cons_append], hne⟩
      obtain ⟨t, tail, hlisted, hne⟩ := hfirst
      rw [hlisted, List.cons_append] at hmany ⊢
      rw [any?, if_neg hne, hmany]

end Lists

/-- The tokens of a value are read as the value, whatever follows. -/
def Returns (v : Json) : Prop := ∀ fuel rest, (tokens v).length ≤ fuel →
  value? fuel (tokens v ++ rest) = some (v, rest)

theorem returns_array {items : List Json} (ih : ∀ v ∈ items, Returns v) :
    Returns (.array items) := by
  intro fuel rest hfuel
  rw [tokens_array, List.length_cons, List.length_append, List.length_singleton] at hfuel
  obtain ⟨fuel, rfl⟩ := Nat.exists_eq_add_one_of_ne_zero (Nat.ne_zero_of_lt hfuel)
  have hcount := length_le_listed tokens items
  have hopen : ∀ v ∈ items, ∃ t rest, tokens v = t :: rest ∧ t ≠ .closeArray := by
    intro v _
    cases v <;> rw [tokens] <;> exact ⟨_, _, rfl, fun h => by cases h⟩
  have hread : ∀ v ∈ items, ∀ rest, value? fuel (tokens v ++ rest) = some (v, rest) := by
    intro v hv rest
    have hlength := length_le_listed_of_mem tokens hv
    exact ih v hv fuel rest (by omega)
  rw [tokens_array, List.cons_append, List.append_assoc, List.singleton_append, value?,
    any?_append (by decide) hopen hread (by omega)]
  rfl

theorem returns_object {members : List (String × Json)} (ih : ∀ m ∈ members, Returns m.2) :
    Returns (.object members) := by
  intro fuel rest hfuel
  rw [tokens_object, List.length_cons, List.length_append, List.length_singleton] at hfuel
  obtain ⟨fuel, rfl⟩ := Nat.exists_eq_add_one_of_ne_zero (Nat.ne_zero_of_lt hfuel)
  have hcount := length_le_listed memberTokens members
  have hopen : ∀ m ∈ members, ∃ t rest, memberTokens m = t :: rest ∧ t ≠ .closeObject :=
    fun m _ => ⟨_, _, rfl, fun h => by cases h⟩
  have hread : ∀ m ∈ members, ∀ rest,
      keyed? (value? fuel) (memberTokens m ++ rest) = some (m, rest) := by
    intro m hm rest
    have hlength := length_le_listed_of_mem memberTokens hm
    rw [memberTokens, List.length_cons, List.length_cons] at hlength
    rw [memberTokens, List.cons_append, List.cons_append, keyed?, ih m hm fuel rest (by omega)]
    rfl
  rw [tokens_object, List.cons_append, List.append_assoc, List.singleton_append, value?,
    any?_append (by decide) hopen hread (by omega)]
  rfl

theorem returns (v : Json) : Returns v := by
  induction v using induct with
  | null | number literal | string text =>
      intro fuel rest hfuel
      rw [tokens] at hfuel ⊢
      obtain ⟨fuel, rfl⟩ := Nat.exists_eq_add_one_of_ne_zero (Nat.ne_zero_of_lt hfuel)
      rfl
  | array items ih => exact returns_array ih
  | object members ih => exact returns_object ih

/-! ## Both passes -/

theorem isChain_append_mark {before after : List Token} {t : Token} (h : before.IsChain Apart)
    (mark : t.IsMark) (h' : after.IsChain Apart) : (before ++ t :: after).IsChain Apart := by
  refine List.isChain_append.mpr ⟨h, List.isChain_cons.mpr ⟨fun _ _ => .inl mark, h'⟩, ?_⟩
  rintro a - b ⟨⟩
  exact .inr mark

theorem isChain_listed {α : Type} {ts : α → List Token} {xs : List α}
    (h : ∀ x ∈ xs, (ts x).IsChain Apart) : (listed ts xs).IsChain Apart := by
  induction xs with
  | nil => exact .nil
  | cons x xs ih =>
      obtain ⟨hx, hrest⟩ := List.forall_mem_cons.mp h
      cases xs with
      | nil => rwa [listed_singleton]
      | cons y xs =>
          rw [listed_cons_cons]
          exact isChain_append_mark hx trivial (ih hrest)

/-- No two words, numbers or strings are neighbours in the tokens of a value. -/
theorem isChain_tokens (v : Json) : (tokens v).IsChain Apart := by
  have hmark {ts : List Token} {t : Token} (mark : t.IsMark) (h : ts.IsChain Apart) :
      (t :: ts).IsChain Apart := isChain_append_mark .nil mark h
  induction v using induct with
  | null | number literal | string text =>
      rw [tokens]
      exact List.isChain_singleton _
  | array items ih =>
      rw [tokens_array]
      exact hmark trivial (isChain_append_mark (isChain_listed ih) trivial .nil)
  | object members ih =>
      rw [tokens_object]
      refine hmark trivial (isChain_append_mark (isChain_listed fun m hm => ?_) trivial .nil)
      have hkey : [Token.string m.1].IsChain Apart := List.isChain_singleton _
      exact isChain_append_mark (t := .colon) hkey trivial (ih m hm)

/-- What spells a value is read as the value. -/
theorem read?_of_spells {v : Json} {text : List Char} (h : Spells v text) :
    read? text = some v := by
  have hvalue := returns v (tokens v).length [] (Nat.le_refl _)
  rw [List.append_nil] at hvalue
  rw [read?, lex?_of_lexes h (isChain_tokens v) (Nat.le_refl _), Option.bind_some, hvalue]

example : read? "[1.5,\n \x7b\"\\u0041\\n\": null\x7d]".toList =
    some (.array [.number "1.5", .object [("A\n", .null)]]) := by cbv

/-- No text is a document for two values. -/
theorem eq_of_spells {v w : Json} {text : List Char} (hv : Spells v text) (hw : Spells w text) :
    v = w :=
  Option.some.inj ((read?_of_spells hv).symm.trans (read?_of_spells hw))

end GoldenFiles.Json
