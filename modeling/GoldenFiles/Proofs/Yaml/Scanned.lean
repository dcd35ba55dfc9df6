import GoldenFiles.Proofs.Text.Digits
import GoldenFiles.Proofs.Yaml.Written

/-!
# Scalars read where they stand

A scalar is read with the line and the column of every character at hand, and
with all that may follow it. So each of these lemmas is about a scalar somewhere
in a line with any characters after it, and tells where the reading goes on.

Quoted texts go by induction on their spelling (`doubleQuoted_content`). The
reader does not know about white space in a quoted text until it sees what comes
next: a space could be the first of many that a line break folds away. What it
holds back is the invariant, a run in which no line ends, and as no line ends inside a
written line that run is given back unchanged. Only the first column of a line
has to be kept away from, since the marks of a document would be found there
even inside quotes.

Words are simpler to read and harder to end. In front of a colon with a space
the next word is refused at once; at the end of a line it depends on the next
line, which is the only place where a reading looks beyond the line that it is
in (`plain_of_newline`).
-/

namespace GoldenFiles.Yaml

variable {c : Char} {line column : Nat} {more : List Char}

/-! ## Characters of a line -/

theorem mem_lineEnds_of_isBreak (h : isBreak c) : c ∈ lineEnds := by
  obtain rfl | rfl | rfl := of_decide_eq_true h <;> decide

theorem IsInline.isBreak_eq (h : IsInline c) : isBreak c = false :=
  Bool.eq_false_iff.mpr fun hbreak => h.2 (mem_lineEnds_of_isBreak hbreak)

theorem toNat_of_between (low high : Char) (h : low.val ≤ c.val ∧ c.val ≤ high.val)
    (bounds : 0x2D ≤ low.toNat ∧ high.toNat ≤ 0x7A) : 0x2D ≤ c.toNat ∧ c.toNat ≤ 0x7A :=
  ⟨bounds.1.trans (UInt32.le_iff_toNat_le.mp h.1), (UInt32.le_iff_toNat_le.mp h.2).trans bounds.2⟩

theorem toNat_of_isNameChar (h : isNameChar c) : 0x2D ≤ c.toNat ∧ c.toNat ≤ 0x7A := by
  have hboth : ∀ {p q : Prop} [Decidable p] [Decidable q], (decide p && decide q) = true → p ∧ q :=
    fun h => (Bool.and_eq_true_iff.mp h).imp of_decide_eq_true of_decide_eq_true
  obtain h | hdash := Bool.or_eq_true_iff.mp h
  · obtain h | hunder := Bool.or_eq_true_iff.mp h
    · obtain h | hdigit := Bool.or_eq_true_iff.mp h
      · obtain hupper | hlower := Bool.or_eq_true_iff.mp h
        · exact toNat_of_between 'A' 'Z' (of_decide_eq_true hupper) (by decide)
        · exact toNat_of_between 'a' 'z' (hboth hlower) (by decide)
      · exact toNat_of_between '0' '9' (hboth hdigit) (by decide)
    · obtain rfl := of_decide_eq_true hunder
      decide
  · obtain rfl := of_decide_eq_true hdash
    decide

theorem isInline_of_isNameChar (h : isNameChar c) : IsInline c := by
  obtain ⟨hlow, hhigh⟩ := toNat_of_isNameChar h
  refine ⟨decide_eq_true (by omega), ?_⟩
  intro hend
  simp only [lineEnds, List.mem_cons, List.not_mem_nil, or_false] at hend
  obtain rfl | rfl | rfl | rfl | rfl := hend <;> simp at hlow hhigh

theorem isWhite_of_isNameChar (h : isNameChar c) : isWhite c = false := by
  refine Bool.eq_false_iff.mpr fun hwhite => ?_
  rw [isWhite, (isInline_of_isNameChar h).isBreak_eq, Bool.or_false] at hwhite
  obtain rfl | rfl := of_decide_eq_true hwhite
  · exact absurd h (by decide)
  · exact absurd h (by decide)

theorem locate_cons (h : IsInline c) (rest : List Char) (line column : Nat) :
    locate (c :: rest) line column = ⟨c, line, column⟩ :: locate rest line (column + 1) := by
  rw [locate, h.isBreak_eq]
  rfl

theorem length_locate (text : List Char) (line column : Nat) :
    (locate text line column).length = text.length := by
  induction text generalizing line column with
  | nil => rfl
  | cons c text ih =>
      rw [locate, List.length_cons, List.length_cons]
      split
      · rw [ih]
      · rw [ih]

/-- A mark of a document stands at the start of a line. -/
theorem atTriple_of_column (h : 0 < column) (mark c : Char) (rest : Source) :
    Source.atTriple mark (⟨c, line, column⟩ :: rest) = false := by
  unfold Source.atTriple
  split
  · next heq =>
      obtain ⟨rfl, -⟩ := List.cons.inj heq
      simp [Nat.ne_of_gt h]
  · rfl

theorem atTriple_of_ne {mark : Char} (h : c ≠ mark) (rest : Source) :
    Source.atTriple mark (⟨c, line, column⟩ :: rest) = false := by
  unfold Source.atTriple
  split
  · next heq =>
      obtain ⟨rfl, -⟩ := List.cons.inj heq
      simp [h]
  · rfl

theorem atDocumentMark_of_column (h : 0 < column) (c : Char) (rest : Source) :
    Source.atDocumentMark (⟨c, line, column⟩ :: rest) = false := by
  rw [Source.atDocumentMark, atTriple_of_column h, atTriple_of_column h]
  rfl

/-! ## Quoted texts -/

theorem escape?_of_mem {letter : Char} (h : (letter, c) ∈ escapeLetters) :
    escape? letter = some c ∧ IsInline letter := by
  have hall : ∀ p ∈ escapeLetters, escape? p.1 = some p.2 ∧ isAllowed p.1 ∧ p.1 ∉ lineEnds := by
    decide
  exact hall _ h

theorem escapeDigits?_of_mem {mark : Char} {count : Nat} (h : (mark, count) ∈ numberMarks) :
    escape? mark = none ∧ escapeDigits? mark = some count ∧ 0 < count ∧ IsInline mark := by
  have hall : ∀ p ∈ numberMarks, escape? p.1 = none ∧ escapeDigits? p.1 = some p.2 ∧ 0 < p.2 ∧
      isAllowed p.1 ∧ p.1 ∉ lineEnds := by
    decide
  exact hall _ h

theorem IsHexDigit.hexDigit?_eq {d : Nat} (h : IsHexDigit c d) :
    hexDigit? c = some d ∧ isNameChar c := by
  have hall : ∀ d < 16, hexDigit? (Nat.digitChar d) = some d ∧
      hexDigit? (Nat.digitChar d).toUpper = some d ∧ isNameChar (Nat.digitChar d) ∧
      isNameChar (Nat.digitChar d).toUpper := by
    decide
  obtain ⟨hlt, rfl | rfl⟩ := h
  · exact ⟨(hall d hlt).1, (hall d hlt).2.2.1⟩
  · exact ⟨(hall d hlt).2.1, (hall d hlt).2.2.2⟩

theorem doubleQuoted_digits {digits : List Char} {values : List Nat} {after : Nat}
    (h : List.Forall₂ IsHexDigit digits values) (hne : digits ≠ []) {value : Nat}
    (hvalue : c.toNat = values.foldl (fun n d => n * 16 + d) value)
    (hafter : after = column + digits.length) :
    doubleQuoted (.digits digits.length value) (locate (digits ++ more) line column) =
      (doubleQuoted (.text {}) (locate more line after)).map (prepend [c]) := by
  induction h generalizing value column with
  | nil => exact absurd rfl hne
  | @cons digit d digits values hdigit hrest ih =>
      obtain ⟨hhex, hname⟩ := hdigit.hexDigit?_eq
      rw [List.cons_append, locate_cons (isInline_of_isNameChar hname), doubleQuoted]
      simp only [hhex]
      cases hrest with
      | nil =>
          have hchar : charOfNat? c.toNat = some c := by
            rw [charOfNat?, Char.ofNat_toNat]
            exact if_pos c.valid
          obtain rfl := hafter
          -- the last digit: what has been added up is the number of `c`
          rw [← show c.toNat = value * 16 + d from hvalue, if_neg (by simp)]
          simp only [hchar]
          rfl
      | @cons next e rest values hnext hrest =>
          rw [if_pos (by simp)]
          exact ih (List.cons_ne_nil _ _) hvalue (by simp only [hafter, List.length_cons]; omega)

/-- A backslash is read with the white space in front of it. -/
theorem doubleQuoted_backslash {run : List Char} (hrun : ∀ c ∈ run, isBreak c = false)
    (hcolumn : 0 < column) (rest : List Char) :
    doubleQuoted (.text { run := run }) (locate ('\\' :: rest) line column) =
      (doubleQuoted .escape (locate rest line (column + 1))).map (prepend run) := by
  have hgap : Gap.text { run := run } = run := folded_of_no_break hrun
  rw [locate_cons (by decide), doubleQuoted, atDocumentMark_of_column hcolumn]
  simp [hgap, isWhite, isBlank, isBreak]

/-- A quoted text is read to its end, with the white space in front of it. -/
theorem doubleQuoted_content {text content run : List Char} {after : Nat}
    (h : Quoted text content) (hrun : ∀ c ∈ run, isBreak c = false) (hcolumn : 0 < column)
    (hafter : after = column + content.length + 1) :
    doubleQuoted (.text { run := run }) (locate (content ++ '\x22' :: more) line column) =
      some (run ++ text, locate more line after) := by
  have hnone : ∀ c ∈ ([] : List Char), isBreak c = false := by simp
  induction h generalizing run column with
  | nil =>
      have hgap : Gap.text { run := run } = run := folded_of_no_break hrun
      rw [List.nil_append, locate_cons (by decide), doubleQuoted, atDocumentMark_of_column hcolumn]
      simp [hgap, isWhite, isBlank, isBreak, hafter]
  | @raw c text content inline quote backslash rest ih =>
      have hlength : after = column + 1 + content.length + 1 := by
        simp only [hafter, List.length_cons]
        omega
      rw [List.cons_append, locate_cons inline, doubleQuoted, atDocumentMark_of_column hcolumn]
      -- white space joins the run, and any other character gives the run back
      by_cases hwhite : isWhite c
      · have hpush : ∀ d ∈ run ++ [c], isBreak d = false := by
          intro d hd
          obtain hd | hd := List.mem_append.mp hd
          · exact hrun d hd
          · exact List.mem_singleton.mp hd ▸ inline.isBreak_eq
        have hread := ih hpush (Nat.succ_pos column) hlength
        rw [List.append_assoc, List.singleton_append] at hread
        simpa [hwhite, Gap.push] using hread
      · have hgap : Gap.text { run := run } = run := folded_of_no_break hrun
        have hread := ih hnone (Nat.succ_pos column) hlength
        simp [hwhite, quote, backslash, hread, hgap, prepend]
  | @letter letter c text content meaning rest ih =>
      obtain ⟨hescape, inline⟩ := escape?_of_mem meaning
      have hread : doubleQuoted (.text {}) (locate (content ++ '\x22' :: more) line (column + 2)) =
          some (text, locate more line after) :=
        ih hnone (Nat.succ_pos _) (by simp only [hafter, List.length_cons]; omega)
      rw [List.cons_append, doubleQuoted_backslash hrun hcolumn, List.cons_append,
        locate_cons inline, doubleQuoted]
      simp [inline.isBreak_eq, hescape, hread, prepend]
  | @number mark c digits values text content marked spelled value rest ih =>
      obtain ⟨hescape, hdigits, hpos, inline⟩ := escapeDigits?_of_mem marked
      have hread : doubleQuoted (.text {}) (locate (content ++ '\x22' :: more) line
          (column + 2 + digits.length)) = some (text, locate more line after) :=
        ih hnone (by omega) (by simp only [hafter, List.length_cons, List.length_append]; omega)
      rw [← foldl_eq_ofDigits] at value
      rw [List.cons_append, doubleQuoted_backslash hrun hcolumn, List.cons_append,
        locate_cons inline, doubleQuoted, List.append_assoc]
      simp only [inline.isBreak_eq, hescape, hdigits, Bool.false_eq_true, if_false]
      rw [doubleQuoted_digits spelled (List.ne_nil_of_length_pos hpos) value rfl, hread]
      simp [prepend]

/-! ## Words -/

theorem atUnclearColon_false (s : Source) : atUnclearColon false s = false := by
  unfold atUnclearColon
  split <;> rfl

theorem word_of_endsWord {s : Source} (h : endsWord false s) : word false s = some ([], s) := by
  cases s with
  | nil => rfl
  | cons c rest => rw [word, atUnclearColon_false, if_neg Bool.false_ne_true, if_pos h]

theorem endsWord_of_isNameChar {rest : Source} (h : isNameChar c) :
    endsWord false (⟨c, line, column⟩ :: rest) = false := by
  have hcolon : c ≠ ':' := by
    rintro rfl
    exact absurd h (by decide)
  simp [endsWord, isWhite_of_isNameChar h, hcolon]

/-- A word is read up to where words end. -/
theorem word_of_names {letters : List Char} {after : Nat} (h : ∀ c ∈ letters, isNameChar c)
    (hafter : after = column + letters.length) (hend : endsWord false (locate more line after)) :
    word false (locate (letters ++ more) line column) =
      some (letters, locate more line after) := by
  induction letters generalizing column with
  | nil =>
      obtain rfl := hafter
      exact word_of_endsWord hend
  | cons c letters ih =>
      have hname : isNameChar c := h c List.mem_cons_self
      have hlength : after = column + 1 + letters.length := by
        rw [hafter, List.length_cons]
        omega
      rw [List.cons_append, locate_cons (isInline_of_isNameChar hname), word, atUnclearColon_false,
        endsWord_of_isNameChar hname, ih (fun d hd => h d (List.mem_cons_of_mem c hd)) hlength]
      rfl

/-- A plain scalar ends if no word can follow the white space after it. -/
theorem plainAfter_of_stop {indent : Nat} {s : Source}
    (tabs : hasTabIndent indent (s.run isWhite) = false)
    (stop : mayGoOn false indent (s.after isWhite) → endsWord false (s.after isWhite)) :
    plainAfter false indent s =
      some ⟨[], (s.run isWhite).any (isBreak ·.char), s.after isWhite⟩ := by
  rw [plainAfter]
  simp only [tabs, Bool.false_eq_true, if_false]
  split
  · rfl
  · next hgoes =>
      have hword := word_of_endsWord (stop (by simpa using hgoes))
      split
      · next heq => cases hword.symm.trans heq
      · rfl
      · next heq => cases hword.symm.trans heq

/-- A word ends in front of the colon of a key. -/
theorem plain_of_colon {letters : List Char} {after indent : Nat} (h : ∀ c ∈ letters, isNameChar c)
    (hafter : after = column + letters.length) :
    plain false indent (locate (letters ++ ':' :: ' ' :: more) line column) =
      some ⟨letters, false, locate (':' :: ' ' :: more) line after⟩ := by
  have hsource : locate (':' :: ' ' :: more) line after =
      ⟨':', line, after⟩ :: ⟨' ', line, after + 1⟩ :: locate more line (after + 2) := by
    rw [locate_cons (by decide), locate_cons (by decide)]
  have hend : endsWord false (locate (':' :: ' ' :: more) line after) := by
    rw [hsource]
    rfl
  have hstop : plainAfter false indent (locate (':' :: ' ' :: more) line after) =
      some ⟨[], false, locate (':' :: ' ' :: more) line after⟩ := by
    rw [hsource] at hend ⊢
    exact plainAfter_of_stop rfl fun _ => hend
  rw [plain, word_of_names h hafter hend]
  simp [hstop]

theorem plainAfter_newline {indent : Nat} (hindent : 0 < indent)
    (hnext : ∀ c ∈ more.head?, isWhite c = false) (line column : Nat) :
    plainAfter false indent (locate ('\n' :: more) line column) =
      some ⟨[], true, locate more (line + 1) 0⟩ := by
  cases more with
  | nil => exact plainAfter_of_stop rfl fun hgoes => absurd hgoes Bool.false_ne_true
  | cons c more =>
      have hwhite : isWhite c = false := hnext c rfl
      have hnewline : isWhite '\n' = true := rfl
      obtain ⟨rest, hrest⟩ : ∃ rest, locate (c :: more) (line + 1) 0 = ⟨c, line + 1, 0⟩ :: rest :=
        ⟨_, rfl⟩
      have hsource : locate ('\n' :: c :: more) line column =
          ⟨'\n', line, column⟩ :: ⟨c, line + 1, 0⟩ :: rest := by
        rw [← hrest]
        rfl
      have hrun : Source.run isWhite (⟨'\n', line, column⟩ :: ⟨c, line + 1, 0⟩ :: rest) =
          [⟨'\n', line, column⟩] := by
        simp [Source.run, hwhite, hnewline]
      have hskip : Source.after isWhite (⟨'\n', line, column⟩ :: ⟨c, line + 1, 0⟩ :: rest) =
          ⟨c, line + 1, 0⟩ :: rest := by
        simp [Source.after, hwhite, hnewline]
      have hstays : mayGoOn false indent (⟨c, line + 1, 0⟩ :: rest) = false := by
        simp [mayGoOn, Nat.not_le.mpr hindent]
      rw [hsource, hrest, plainAfter_of_stop]
      · rw [hrun, hskip]
        rfl
      · rw [hrun]
        rfl
      · rw [hskip, hstays]
        exact fun hgoes => absurd hgoes Bool.false_ne_true

/-- A word ends at the end of its line, if the next line is not indented. -/
theorem plain_of_newline {letters : List Char} {indent : Nat} (h : ∀ c ∈ letters, isNameChar c)
    (hindent : 0 < indent) (hnext : ∀ c ∈ more.head?, isWhite c = false) :
    plain false indent (locate (letters ++ '\n' :: more) line column) =
      some ⟨letters, true, locate more (line + 1) 0⟩ := by
  have hstop := plainAfter_newline hindent hnext line (column + letters.length)
  rw [plain, word_of_names h rfl rfl]
  simp [hstop]

/-! ## The text of lines -/

theorem inline_of_hexDigits {digits : List Char} {values : List Nat}
    (h : List.Forall₂ IsHexDigit digits values) : ∀ c ∈ digits, IsInline c := by
  induction h with
  | nil => simp
  | cons hdigit _ ih =>
      exact List.forall_mem_cons.mpr ⟨isInline_of_isNameChar hdigit.hexDigit?_eq.2, ih⟩

theorem Quoted.inline {text content : List Char} (h : Quoted text content) :
    ∀ c ∈ content, IsInline c := by
  induction h with
  | nil => simp
  | raw inline _ _ _ ih => exact List.forall_mem_cons.mpr ⟨inline, ih⟩
  | letter meaning _ ih =>
      exact List.forall_mem_cons.mpr
        ⟨by decide, List.forall_mem_cons.mpr ⟨(escape?_of_mem meaning).2, ih⟩⟩
  | @number mark c digits values text content marked spelled _ _ ih =>
      obtain ⟨-, -, -, inline⟩ := escapeDigits?_of_mem marked
      exact List.forall_mem_cons.mpr ⟨by decide, List.forall_mem_cons.mpr
        ⟨inline, List.forall_mem_append.mpr ⟨inline_of_hexDigits spelled, ih⟩⟩⟩

theorem QuotedText.inline (q : QuotedText) : ∀ c ∈ q.written, IsInline c :=
  List.forall_mem_cons.mpr ⟨by decide, List.forall_mem_append.mpr
    ⟨q.quoted.inline, List.forall_mem_singleton.mpr (by decide)⟩⟩

theorem IsWord.names {letters : List Char} (h : IsWord letters) : ∀ c ∈ letters, isNameChar c :=
  List.all_eq_true.mp h.2.2

theorem IsWord.exists_cons {letters : List Char} (h : IsWord letters) :
    ∃ c rest, letters = c :: rest ∧ isNameChar c ∧ c ≠ '-' := by
  obtain ⟨c, rest, rfl⟩ := List.exists_cons_of_ne_nil h.1
  refine ⟨c, rest, rfl, h.names c List.mem_cons_self, ?_⟩
  rintro rfl
  exact h.2.1 rfl

theorem Scalar.inline (s : Scalar) : ∀ c ∈ s.written, IsInline c := by
  cases s with
  | word letters isWord => exact fun c hc => isInline_of_isNameChar (isWord.names c hc)
  | quoted q => exact q.inline

theorem inline_writtenItems (items : List QuotedText) : ∀ c ∈ writtenItems items, IsInline c := by
  induction items with
  | nil => simp [writtenItems]
  | cons q items ih =>
      cases items with
      | nil => exact q.inline
      | cons next items =>
          exact List.forall_mem_append.mpr ⟨q.inline, List.forall_mem_cons.mpr
            ⟨by decide, List.forall_mem_cons.mpr ⟨by decide, ih⟩⟩⟩

theorem Value.inline (v : Value) : ∀ c ∈ v.written, IsInline c := by
  cases v with
  | scalar s => exact s.inline
  | list items =>
      exact List.forall_mem_cons.mpr ⟨by decide, List.forall_mem_append.mpr
        ⟨inline_writtenItems items, List.forall_mem_singleton.mpr (by decide)⟩⟩

theorem Line.inline (l : Line) : ∀ c ∈ l.content, IsInline c :=
  List.forall_mem_append.mpr ⟨l.key.inline, List.forall_mem_cons.mpr
    ⟨by decide, List.forall_mem_cons.mpr ⟨by decide, l.value.inline⟩⟩⟩

/-- Lines are made of characters inside lines and of line feeds. -/
theorem inline_or_newline {lines : List Line} (h : c ∈ writtenLines lines) :
    IsInline c ∨ c = '\n' := by
  obtain ⟨l, -, hc⟩ := List.mem_flatMap.mp h
  obtain hc | hc := List.mem_append.mp hc
  · exact .inl (l.inline c hc)
  · exact .inr (List.mem_singleton.mp hc)

theorem all_isAllowed (lines : List Line) : (writtenLines lines).all isAllowed := by
  refine List.all_eq_true.mpr fun c hc => ?_
  obtain h | rfl := inline_or_newline hc
  · exact h.1
  · rfl

/-- No end of a line is spelled in another way. -/
theorem normalized_of_inline {text : List Char} (h : ∀ c ∈ text, IsInline c ∨ c = '\n') :
    normalized text = text := by
  induction text with
  | nil => rfl
  | cons c text ih =>
      obtain ⟨hc, htext⟩ := List.forall_mem_cons.mp h
      have hother : c ≠ '\r' ∧ c ≠ '\u0085' := by
        constructor <;> rintro rfl <;> exact absurd hc (by decide)
      rw [normalized.eq_def]
      split
      · next heq => exact absurd (List.cons.inj heq).1 hother.1
      · next heq => exact absurd (List.cons.inj heq).1 hother.1
      · next heq => exact absurd (List.cons.inj heq).1 hother.2
      · next heq =>
          obtain ⟨rfl, rfl⟩ := List.cons.inj heq
          rw [ih htext]
      · next heq => cases heq

end GoldenFiles.Yaml
