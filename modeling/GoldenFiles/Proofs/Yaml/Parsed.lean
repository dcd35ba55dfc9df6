import GoldenFiles.Proofs.Decimal.Numeral
import GoldenFiles.Proofs.Text.Digits
import GoldenFiles.Proofs.Yaml.Lexed
import GoldenFiles.Yaml.Value

/-!
# The node of lines

The tokens of lines are taken apart again here, with any tokens behind them and
with fuel for at least their number. The tokens of a value begin with none that
could end an entry, so that a key is never left without its value
(`Value.exists_tokens`). The entries of a mapping go by induction on the lines
and the items of a list by induction on the items, each with the mark of its end
behind it.

What a node stands for is a matter of the one who reads it. A scalar can always
be read as its text; a word can also be read as a number, and a number that is
written plainly, with no sign and no zeros in front, is read as itself
(`natural?_toString`).
-/

namespace GoldenFiles.Yaml

/-! ## Values -/

section

variable {handles : Handles} {names : Names} {rest : List Token}

theorem node_quoted (q : QuotedText) (fuel : Nat) (bare : Bool) :
    node handles (fuel + 1) bare ⟨q.token :: rest, names⟩ = some (q.node, ⟨rest, names⟩) := by
  rw [node]
  rfl

theorem node_scalar (v : Scalar) (fuel : Nat) (bare : Bool) :
    node handles (fuel + 1) bare ⟨v.token :: rest, names⟩ = some (v.node, ⟨rest, names⟩) := by
  cases v with
  | quoted q => exact node_quoted q fuel bare
  | word letters isWord =>
      rw [node]
      rfl

theorem itemTokens_cons (q : QuotedText) (items : List QuotedText) :
    itemTokens (q :: items) = q.token :: items.flatMap fun q => [.comma, q.token] := by
  induction items generalizing q with
  | nil => rfl
  | cons next items ih =>
      show q.token :: .comma :: itemTokens (next :: items) = _
      rw [ih]
      rfl

theorem flowItems_entry {q : QuotedText} {first : Bool} {tokens more : List Token} {fuel : Nat}
    (next : flowNext .flowSequenceEnd first tokens = some (.entry (q.token :: more))) :
    flowItems handles (fuel + 2) first ⟨tokens, names⟩ =
      (flowItems handles (fuel + 1) false ⟨more, names⟩).map fun found =>
        (q.node :: found.1, found.2) := by
  have hitem : node handles (fuel + 1) false
      ⟨.scalar .doubleQuoted q.text :: more, names⟩ = some (q.node, ⟨more, names⟩) :=
    node_quoted q fuel false
  rw [flowItems]
  simp only [next]
  simp only [QuotedText.token, hitem]

theorem flowItems_more (items : List QuotedText) {fuel : Nat} (h : items.length + 1 ≤ fuel) :
    flowItems handles fuel false
      ⟨(items.flatMap fun q => [.comma, q.token]) ++ .flowSequenceEnd :: rest, names⟩ =
      some (items.map QuotedText.node, ⟨rest, names⟩) := by
  induction items generalizing fuel with
  | nil =>
      obtain ⟨fuel, rfl⟩ := Nat.exists_eq_add_of_le' h
      rfl
  | cons q items ih =>
      rw [List.length_cons] at h
      obtain ⟨fuel, rfl⟩ : ∃ f, fuel = f + 2 := Nat.exists_eq_add_of_le' (by omega)
      have hnext : ∀ more, flowNext .flowSequenceEnd false (.comma :: q.token :: more) =
          some (.entry (q.token :: more)) := fun _ => rfl
      have htokens : ((q :: items).flatMap fun q => [.comma, q.token]) ++ .flowSequenceEnd :: rest =
          .comma :: q.token ::
            ((items.flatMap fun q => [.comma, q.token]) ++ .flowSequenceEnd :: rest) := rfl
      rw [htokens, flowItems_entry (hnext _), ih (by omega)]
      rfl

theorem flowItems_list (items : List QuotedText) {fuel : Nat} (h : items.length + 1 ≤ fuel) :
    flowItems handles fuel true ⟨itemTokens items ++ .flowSequenceEnd :: rest, names⟩ =
      some (items.map QuotedText.node, ⟨rest, names⟩) := by
  cases items with
  | nil =>
      obtain ⟨fuel, rfl⟩ := Nat.exists_eq_add_of_le' h
      rfl
  | cons q items =>
      rw [List.length_cons] at h
      obtain ⟨fuel, rfl⟩ : ∃ f, fuel = f + 2 := Nat.exists_eq_add_of_le' (by omega)
      rw [itemTokens_cons, List.cons_append, flowItems_entry rfl, flowItems_more items (by omega)]
      rfl

theorem length_le_itemTokens (items : List QuotedText) :
    items.length ≤ (itemTokens items).length := by
  cases items with
  | nil => exact Nat.zero_le _
  | cons q items =>
      simp only [itemTokens_cons, List.length_cons, List.length_flatMap, List.length_nil,
        List.map_const', List.sum_replicate_nat]
      omega

theorem node_list (more : List Token) (fuel : Nat) (bare : Bool) :
    node handles (fuel + 1) bare ⟨.flowSequence :: more, names⟩ =
      (flowItems handles fuel true ⟨more, names⟩).map fun found =>
        (.sequence {} found.1, found.2) := by
  rw [node]
  rfl

theorem node_value (v : Value) {fuel : Nat} (h : v.tokens.length + 1 ≤ fuel) (bare : Bool) :
    node handles fuel bare ⟨v.tokens ++ rest, names⟩ = some (v.node, ⟨rest, names⟩) := by
  obtain ⟨fuel, rfl⟩ : ∃ f, fuel = f + 1 := Nat.exists_eq_add_of_le' (by omega)
  cases v with
  | scalar v => exact node_scalar v fuel bare
  | list items =>
      have hlength := length_le_itemTokens items
      simp only [Value.tokens, List.length_cons, List.length_append, List.length_nil] at h
      rw [Value.tokens, List.cons_append, List.append_assoc, node_list]
      show (flowItems handles fuel true ⟨itemTokens items ++ .flowSequenceEnd :: rest, _⟩).map _ = _
      rw [flowItems_list items (by omega)]
      rfl

theorem nodeOrEmpty_of_head {t : Token} {more : List Token} {ends : Token → Bool}
    (h : ends t = false) (fuel : Nat) (bare : Bool) :
    nodeOrEmpty handles (fuel + 1) ends bare ⟨t :: more, names⟩ =
      node handles fuel bare ⟨t :: more, names⟩ := by
  rw [nodeOrEmpty]
  simp [h]

theorem Value.exists_tokens (v : Value) :
    ∃ t more, v.tokens = t :: more ∧ endsBlockEntry t = false := by
  cases v with
  | scalar v => cases v <;> exact ⟨_, _, rfl, rfl⟩
  | list items => exact ⟨_, _, rfl, rfl⟩

theorem pair_line (l : Line) {fuel : Nat} (h : l.value.tokens.length + 3 ≤ fuel) :
    pair handles fuel endsBlockEntry true
      ⟨l.key.token :: .value :: (l.value.tokens ++ rest), names⟩ =
      some (l.entry, ⟨rest, names⟩) := by
  obtain ⟨fuel, rfl⟩ : ∃ f, fuel = f + 3 := Nat.exists_eq_add_of_le' (by omega)
  have hkey : nodeOrEmpty handles (fuel + 2) endsBlockEntry true
      ⟨l.key.token :: .value :: (l.value.tokens ++ rest), names⟩ =
      some (l.key.node, ⟨.value :: (l.value.tokens ++ rest), names⟩) := by
    rw [nodeOrEmpty_of_head (by cases l.key <;> rfl), node_scalar]
  have hvalue : nodeOrEmpty handles (fuel + 2) endsBlockEntry true
      ⟨l.value.tokens ++ rest, names⟩ = some (l.value.node, ⟨rest, names⟩) := by
    obtain ⟨t, more, htokens, hends⟩ := l.value.exists_tokens
    rw [htokens, List.cons_append, nodeOrEmpty_of_head hends, ← List.cons_append, ← htokens,
      node_value l.value (by omega)]
  rw [pair, hkey]
  simp only [hvalue]
  rfl

/-- The entries of lines, up to the end of the mapping. -/
theorem entries_lines (lines : List Line) {fuel : Nat}
    (h : (lines.flatMap Line.tokens).length + 2 ≤ fuel) :
    entries handles fuel ⟨lines.flatMap Line.tokens ++ .blockEnd :: rest, names⟩ =
      some (lines.map Line.entry, ⟨rest, names⟩) := by
  induction lines generalizing fuel with
  | nil =>
      obtain ⟨fuel, rfl⟩ : ∃ f, fuel = f + 1 := Nat.exists_eq_add_of_le' (by omega)
      rw [entries]
      rfl
  | cons l lines ih =>
      obtain ⟨fuel, rfl⟩ : ∃ f, fuel = f + 1 := Nat.exists_eq_add_of_le' (by omega)
      simp only [List.flatMap_cons, Line.tokens, List.length_append, List.length_cons] at h
      have hrest := ih (show (lines.flatMap Line.tokens).length + 2 ≤ fuel by omega)
      have htokens : (l :: lines).flatMap Line.tokens ++ .blockEnd :: rest =
          .key :: l.key.token :: .value ::
            (l.value.tokens ++ (lines.flatMap Line.tokens ++ .blockEnd :: rest)) := by
        simp [Line.tokens]
      rw [htokens, entries]
      simp only [pair_line l (show l.value.tokens.length + 3 ≤ fuel by omega), hrest]
      rfl

theorem node_mapping (lines : List Line) {fuel : Nat}
    (h : (lines.flatMap Line.tokens).length + 3 ≤ fuel) (bare : Bool) :
    node handles fuel bare
      ⟨.blockMapping :: (lines.flatMap Line.tokens ++ .blockEnd :: rest), names⟩ =
      some (.mapping {} (lines.map Line.entry), ⟨rest, names⟩) := by
  obtain ⟨fuel, rfl⟩ : ∃ f, fuel = f + 1 := Nat.exists_eq_add_of_le' (by omega)
  have hentries :
      entries handles fuel ⟨lines.flatMap Line.tokens ++ .blockEnd :: rest, names⟩ =
        some (lines.map Line.entry, ⟨rest, names⟩) := entries_lines lines (by omega)
  rw [node]
  simp only [properties, hentries]
  rfl

end

/-! ## Documents -/

theorem document_lines (lines : List Line) :
    document (.blockMapping :: (lines.flatMap Line.tokens ++ [.blockEnd])) =
      some (some (.mapping {} (lines.map Line.entry))) := by
  have hdirectives : directives false []
      (.blockMapping :: (lines.flatMap Line.tokens ++ [.blockEnd])) =
      some ([], .blockMapping :: (lines.flatMap Line.tokens ++ [.blockEnd])) := rfl
  have hfuel : (lines.flatMap Line.tokens).length + 3 ≤
      4 * ((Token.blockMapping :: (lines.flatMap Line.tokens ++ [.blockEnd])).length + 1) := by
    simp only [List.length_cons, List.length_append, List.length_nil]
    omega
  rw [document]
  simp only [hdirectives]
  rw [node_mapping lines hfuel]
  rfl

/-- Lines are read as the mapping of their entries. -/
theorem read_writtenLines {lines : List Line} (hne : lines ≠ []) :
    read (writtenLines lines) =
      if ∀ l ∈ lines, l.key.written.length ≤ 1024 then
        some (some (.mapping {} (lines.map Line.entry)))
      else none := by
  rw [read, tokens_writtenLines hne]
  split
  · exact document_lines lines
  · rfl

/-! ## Texts and numbers -/

theorem target?_scalar (root : Node) (v : Scalar) : root.target? v.node = some v.node := by
  cases v <;> rfl

theorem text?_scalar (v : Scalar) : v.node.text? = some (.ofList v.text) := by
  cases v <;> rfl

theorem natural?_word {letters : List Char} (isWord : IsWord letters) :
    (Scalar.word letters isWord).node.natural? = natural? letters := by
  rw [Scalar.node, Node.natural?, if_pos (.inl rfl), String.toList_ofList]

/-- Digits are read from the left. -/
theorem digits?_of_digits {digits : List Char} (h : Digits digits) :
    digits? 10 digits = some (Digits.value digits) := by
  have hfold : ∀ rest : List Char, (∀ c ∈ rest, c.isDigit) → ∀ n, rest.foldlM (fun n c =>
      (hexDigit? c).bind fun d => if d < 10 then some (n * 10 + d) else none) n =
      some (rest.foldl (fun n c => n * 10 + Digits.worth c) n) := by
    intro rest hrest
    induction rest with
    | nil => exact fun _ => rfl
    | cons c rest ih =>
        intro n
        obtain ⟨hc, hrest⟩ := List.forall_mem_cons.mp hrest
        obtain ⟨-, hlt⟩ := Digits.toNat_of_isDigit hc
        rw [List.foldlM_cons, hexDigit?, if_pos hc, Option.bind_some, if_pos hlt]
        exact ih hrest _
  rw [digits?, if_neg h.ne_nil]
  exact hfold digits h.digits 0

theorem value_digitsOf (n : Nat) : Digits.value (Decimal.digitsOf n) = n := by
  have hdigits : Nat.ofDigitChars 10 (Decimal.digitsOf n) 0 = n := Nat.ofDigitChars_ten_toDigits
  rw [Nat.ofDigitChars_eq_foldl] at hdigits
  simpa only [Digits.value, Digits.worth, Nat.mul_comm 10] using hdigits

/-- No mark of a base is found in a number without zeros in front. -/
theorem basedDigits?_of_whole {digits : List Char} (h : Json.Whole digits) :
    basedDigits? digits = digits? 10 digits := by
  unfold basedDigits?
  split
  · cases h.alone rfl
  · cases h.alone rfl
  · cases h.alone rfl
  · cases h.alone rfl
  · rfl

theorem isWord_toString (n : Nat) : IsWord (toString n).toList := by
  have hdigits := Decimal.digits_digitsOf n
  rw [toList_toString]
  refine ⟨hdigits.ne_nil, ?_, List.all_eq_true.mpr ?_⟩
  · intro hdash
    exact absurd (hdigits.digits '-' (List.mem_of_head? hdash)) (by decide)
  · intro c hc
    simp [isNameChar, Char.isAlphanum, hdigits.digits c hc]

/-- A number that is written plainly is read as itself. -/
theorem natural?_toString {n : Nat} (small : n < 2 ^ 64) :
    natural? (toString n).toList = some n := by
  have hwhole := Decimal.whole_digitsOf n
  have hread : (basedDigits? (Decimal.digitsOf n)).filter (· < Nat.pow 2 64) = some n := by
    rw [basedDigits?_of_whole hwhole, digits?_of_digits hwhole.toDigits, value_digitsOf,
      Option.filter_some]
    exact if_pos (decide_eq_true small)
  rw [toList_toString]
  unfold natural?
  simp only []
  split
  · next rest heq =>
      have hplus : '+' ∈ Decimal.digitsOf n := heq ▸ List.mem_cons_self
      exact absurd (hwhole.digits _ hplus) (by decide)
  · exact hread

end GoldenFiles.Yaml
