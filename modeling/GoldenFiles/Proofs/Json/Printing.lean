import GoldenFiles.Proofs.Json.Grammar

/-!
# What is printed is a document

The printed text of a value spells it, as long as its numbers are numerals. The
induction is on the value and leaves the depth open, for the depth only tells how
many blanks there are.
-/

namespace GoldenFiles.Json

theorem numbered_control {c : Char} (h : c.toNat < 0x20) :
    numbered? '0' '0' (Nat.digitChar (c.toNat / 16)) (Nat.digitChar (c.toNat % 16)) = some c := by
  have hall : ∀ n < 0x20, numbered? '0' '0' (Nat.digitChar (n / 16)) (Nat.digitChar (n % 16)) =
      some (Char.ofNat n) := by decide
  rw [hall _ h, Char.ofNat_toNat]

theorem spelledChar_escapeChar (c : Char) : SpelledChar c (escapeChar c) := by
  unfold escapeChar
  split
  · exact .short rfl
  · exact .short rfl
  · exact .short rfl
  · exact .short rfl
  · exact .short rfl
  · exact .short rfl
  · exact .short rfl
  · next hquote hbackslash _ _ _ _ _ =>
      split
      · next hcontrol => exact .numbered (numbered_control hcontrol)
      · next hcontrol => exact .itself (by omega) hquote hbackslash

theorem spelledChars_escape (text : List Char) : SpelledChars text (text.flatMap escapeChar) := by
  induction text with
  | nil => exact .nil
  | cons c text ih => exact .cons (spelledChar_escapeChar c) ih

theorem spelled_quote (text : String) : (Token.string text).Spelled (quote text).toList := by
  rw [quote, String.toList_ofList]
  exact .string (spelledChars_escape text.toList)

theorem lexes_newline {ts : List Token} {text : List Char} (depth : Nat) (h : Lexes ts text) :
    Lexes ts ((newline depth).toList ++ text) := by
  refine .blanks (fun c hc => ?_) h
  rw [newline, String.toList_ofList, List.mem_cons] at hc
  obtain rfl | hc := hc
  · rfl
  · rw [List.eq_of_mem_replicate hc]
    rfl

section Parts

variable {α : Type} {ts : α → List Token} {part : α → String} {xs : List α} (depth : Nat)

/-- Parts that are separated by a comma and the start of a line. -/
theorem lexes_intercalate (h : ∀ x ∈ xs, Lexes (ts x) (part x).toList) :
    Lexes (listed ts xs) (("," ++ newline depth).intercalate (xs.map part)).toList := by
  rw [String.toList_intercalate, String.toList_append, List.map_map]
  induction xs with
  | nil => exact .nil
  | cons x xs ih =>
      obtain ⟨hx, hrest⟩ := List.forall_mem_cons.mp h
      cases xs with
      | nil => simpa using hx
      | cons y xs =>
          rw [listed_cons_cons, List.map_cons, List.map_cons, List.intercalate_cons_cons,
            List.append_assoc, List.append_assoc]
          exact hx.append (.token .comma (lexes_newline depth (ih hrest)))

theorem lexes_block {opening closing : Token} {before after : String}
    (hopening : opening.Spelled before.toList) (hclosing : closing.Spelled after.toList)
    (h : ∀ x ∈ xs, Lexes (ts x) (part x).toList) :
    Lexes (opening :: (listed ts xs ++ [closing]))
      (block depth before after (xs.map part)).toList := by
  unfold block
  split
  · next hnone =>
      obtain rfl : xs = [] := by simpa using hnone
      rw [String.toList_append]
      exact .token hopening hclosing.lexes
  · simp only []
    rw [String.toList_append, String.toList_append, String.toList_append, String.toList_append,
      List.append_assoc, List.append_assoc, List.append_assoc]
    exact .token hopening (lexes_newline _
      ((lexes_intercalate (depth + 1) h).append (lexes_newline depth hclosing.lexes)))

end Parts

theorem prettyItems_eq_map (depth : Nat) (items : List Json) :
    prettyItems depth items = items.map (prettyAt depth) := by
  induction items with
  | nil => rfl
  | cons item items ih => rw [prettyItems, ih, List.map_cons]

theorem prettyMembers_eq_map (depth : Nat) (members : List (String × Json)) :
    prettyMembers depth members =
      members.map fun m => quote m.1 ++ ": " ++ prettyAt depth m.2 := by
  induction members with
  | nil => rfl
  | cons m members ih => rw [prettyMembers, ih, List.map_cons]

theorem lexes_prettyAt {v : Json} (hv : Proper v) (depth : Nat) :
    Lexes (tokens v) (prettyAt depth v).toList := by
  induction v using induct generalizing depth with
  | null =>
      rw [tokens, prettyAt]
      exact Token.Spelled.null.lexes
  | number literal =>
      rw [tokens, prettyAt]
      exact (Token.Spelled.number ((proper_number_iff literal).mp hv)).lexes
  | string text =>
      rw [tokens, prettyAt]
      exact (spelled_quote text).lexes
  | array items ih =>
      rw [tokens_array, prettyAt, prettyItems_eq_map]
      exact lexes_block depth .openArray .closeArray fun v hmem =>
        ih v hmem ((proper_array_iff items).mp hv v hmem) _
  | object members ih =>
      rw [tokens_object, prettyAt, prettyMembers_eq_map]
      refine lexes_block depth .openObject .closeObject fun m hmem => ?_
      have hvalue := ih m hmem ((proper_object_iff members).mp hv m hmem) (depth + 1)
      rw [String.toList_append, String.toList_append, List.append_assoc,
        show ": ".toList = [':'] ++ [' '] from rfl, List.append_assoc]
      exact .token (spelled_quote m.1) (.token .colon (.blank rfl hvalue))

/-- What is printed for a value is a document for it. -/
theorem spells_pretty {v : Json} (hv : Proper v) : Spells v (pretty v).toList :=
  lexes_prettyAt hv 0

end GoldenFiles.Json
