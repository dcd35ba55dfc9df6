import GoldenFiles.Proofs.Yaml.Scanned

/-!
# The tokens of lines

The fuel of the reader counts tokens, and no lemma about a part of a line should
have to say how many are in the rest. `Leads` takes it out of the way: one state
leads to another if there is a number of tokens, no larger than the number of
characters read, that any fuel can have more of on both sides. Such steps can be
put one behind the other, and the fuel that a whole text is read with is enough
for all of them.

What happens in a line is then a walk through four states. Lines begin at
`atLine`. After a key it is not known yet that it was one, so a candidate is kept
(`afterKey`), and the colon puts the mark of a key, and before the first one the
start of the mapping, back in front of it; that is also where a key of more than
1024 characters fails. After the colon there are no keys to come (`inLine`), but the
items of a list are kept as candidates like keys, each until the next mark
(`inList`). Nothing comes of these, so it does not matter which of them is kept
(`Loose`).
-/

namespace GoldenFiles.Yaml

/-! ## Tokens -/

def QuotedText.token (q : QuotedText) : Token := .scalar .doubleQuoted q.text

def Scalar.token : Scalar → Token
  | word letters _ => .scalar .plain letters
  | quoted q => q.token

/-- The tokens of the items of a list. -/
def itemTokens : List QuotedText → List Token
  | [] => []
  | [q] => [q.token]
  | q :: items => q.token :: .comma :: itemTokens items

def Value.tokens : Value → List Token
  | scalar s => [s.token]
  | list items => .flowSequence :: (itemTokens items ++ [.flowSequenceEnd])

def Line.tokens (l : Line) : List Token := .key :: l.key.token :: .value :: l.value.tokens

namespace Lexer

variable {x y z : Lexer} {s t u : Source}

/-! ## Runs -/

/-- What is read first makes one state of another and leaves the rest, in no
more tokens than characters. -/
def Leads (x : Lexer) (s : Source) (y : Lexer) (t : Source) : Prop :=
  ∃ used, used + t.length ≤ s.length ∧ ∀ fuel, run (fuel + used) x s = run fuel y t

theorem Leads.refl (x : Lexer) (s : Source) : Leads x s x s :=
  ⟨0, by omega, fun _ => rfl⟩

theorem Leads.trans (first : Leads x s y t) (second : Leads y t z u) : Leads x s z u := by
  obtain ⟨m, hm, hfirst⟩ := first
  obtain ⟨n, hn, hsecond⟩ := second
  refine ⟨n + m, by omega, fun fuel => ?_⟩
  rw [← Nat.add_assoc, hfirst, hsecond]

/-- Enough tokens are allowed for to get to where a run leads. -/
theorem Leads.run_eq (h : Leads x s y t) : ∃ fuel, run s.length x s = run fuel y t := by
  obtain ⟨used, hlength, hrun⟩ := h
  refine ⟨s.length - used, ?_⟩
  rw [← hrun, Nat.sub_add_cancel (by omega)]

/-- Whether a character begins a token wherever it stands. -/
def IsStart (c : Char) : Prop := isBreak c = false ∧ c ∉ ['#', ' ', '\t', byteOrderMark]

instance : DecidablePred IsStart := fun _ => inferInstanceAs (Decidable (_ ∧ _))

theorem toToken_of_start {c : Located} (h : IsStart c.char) (flow mayBeKey : Bool) (rest : Source) :
    toToken flow mayBeKey false (c :: rest) = (mayBeKey, c :: rest) := by
  obtain ⟨hbreak, hother⟩ := h
  simp only [List.mem_cons, List.not_mem_nil, or_false, not_or] at hother
  obtain ⟨hcomment, hspace, htab, hmark⟩ := hother
  simp [toToken, hbreak, hcomment, hspace, htab, hmark]

theorem isStart_of_isNameChar {c : Char} (h : isNameChar c) : IsStart c := by
  refine ⟨(isInline_of_isNameChar h).isBreak_eq, fun hmem => ?_⟩
  simp only [List.mem_cons, List.not_mem_nil, or_false] at hmem
  obtain rfl | rfl | rfl | rfl := hmem <;> exact absurd h (by decide)

/-- The token that begins with a character, if one can be read. -/
def next? (x : Lexer) (c : Located) (rest : Source) : Option (Lexer × Source) :=
  (x.expire c).bind fun x => (x.closeBlocks (c.column < ·)).token c rest

theorem run_of_start {c : Located} (h : IsStart c.char) (fuel : Nat) (x : Lexer) (rest : Source) :
    run (fuel + 1) x (c :: rest) = (x.next? c rest).bind fun (y, t) => run fuel y t := by
  rw [run.eq_def]
  simp only [toToken_of_start h]
  split
  · next hnone =>
      rw [show x.next? c rest = none from hnone]
      rfl
  · next y t hsome =>
      rw [show x.next? c rest = some (y, t) from hsome]
      rfl

theorem leads_of_next {c : Located} {rest : Source} (start : IsStart c.char)
    (read : x.next? c rest = some (y, t)) (shorter : t.length ≤ rest.length) :
    Leads x (c :: rest) y t := by
  refine ⟨1, by rw [List.length_cons]; omega, fun fuel => ?_⟩
  rw [run_of_start start, read]
  rfl

theorem run_eq_none {c : Located} {rest : Source} (start : IsStart c.char)
    (read : x.next? c rest = none) (fuel : Nat) : run fuel x (c :: rest) = none := by
  cases fuel with
  | zero =>
      rw [run.eq_def]
      simp only [toToken_of_start start]
  | succ fuel =>
      rw [run_of_start start, read]
      rfl

/-- What is skipped in front of a token makes no difference. -/
theorem leads_of_skip {mayBeKey : Bool} (shorter : t.length ≤ s.length)
    (skip : toToken x.inFlow x.mayBeKey false s = toToken x.inFlow mayBeKey false t) :
    Leads x s { x with mayBeKey := mayBeKey } t := by
  refine ⟨0, by omega, fun fuel => ?_⟩
  rw [Nat.add_zero, run.eq_def, run.eq_def fuel]
  simp only [skip]
  rfl

theorem leads_of_newline (h : x.outer = []) (line column : Nat) (rest : List Char) :
    Leads x (locate ('\n' :: rest) line column) { x with mayBeKey := true }
      (locate rest (line + 1) 0) := by
  refine leads_of_skip (by simp [length_locate]) ?_
  simp [locate, toToken, isBreak, inFlow, h]

theorem leads_of_space (x : Lexer) (line column : Nat) (rest : List Char) :
    Leads x (locate (' ' :: rest) line column) x (locate rest line (column + 1)) := by
  refine leads_of_skip (by simp [length_locate]) ?_
  simp [locate, toToken, isBreak]

/-! ## Single tokens -/

variable {line column : Nat} {rest : Source}

theorem token_quote (x : Lexer) : x.token ⟨'\x22', line, column⟩ rest =
    x.node ⟨'\x22', line, column⟩ ((doubleQuoted (.text {}) rest).map fun (text, rest) =>
      (.scalar .doubleQuoted text, rest)) := by
  simp [token, atTriple_of_ne]

theorem token_colon (x : Lexer) (gap : Source.atGap rest) :
    x.token ⟨':', line, column⟩ rest = (x.value ⟨':', line, column⟩).map (·, rest) := by
  simp [token, atTriple_of_ne, gap]

theorem token_open (x : Lexer) : x.token ⟨'[', line, column⟩ rest =
    (x.openFlow ⟨'[', line, column⟩ .flowSequence).map (·, rest) := by
  simp [token, atTriple_of_ne]

theorem token_comma (x : Lexer) : x.token ⟨',', line, column⟩ rest =
    (x.dropCandidate.map fun x => { x.push .comma with mayBeKey := true }).map (·, rest) := by
  simp [token, atTriple_of_ne]

theorem token_close (x : Lexer) : x.token ⟨']', line, column⟩ rest =
    (x.closeFlow .flowSequenceEnd).map (·, rest) := by
  simp [token, atTriple_of_ne]

theorem token_name {c : Char} (h : isNameChar c) (dash : c ≠ '-') (x : Lexer) :
    x.token ⟨c, line, column⟩ rest =
      x.plainScalar ⟨c, line, column⟩ (⟨c, line, column⟩ :: rest) := by
  have hdot : c ≠ '.' := by
    rintro rfl
    exact absurd h (by decide)
  have hpercent : c ≠ '%' := by
    rintro rfl
    exact absurd h (by decide)
  simp only [token, atTriple_of_ne dash, atTriple_of_ne hdot, hpercent, and_false,
    Bool.false_eq_true, if_false]
  split
  all_goals first | rfl | exact absurd rfl dash | exact absurd h (by decide)

/-! ## The tokens of a line -/

/-- Between two lines. -/
def atLine (tokens : List Token) (indents : List Nat) : Lexer := { tokens, indents }

/-- After the key of a line. -/
def afterKey (tokens : List Token) (indents : List Nat) (line : Nat) (t : Token) : Lexer where
  tokens := t :: tokens
  indents := indents
  candidate := some ⟨tokens.length, line, 0, indents.head? = some 0⟩
  mayBeKey := false

/-- After the colon of a line, or after its value. -/
def inLine (tokens : List Token) : Lexer := { tokens, indents := [0], mayBeKey := false }

/-- Between the items of a list. -/
def inList (tokens : List Token) (candidate : Option Candidate) (mayBeKey : Bool) : Lexer :=
  { tokens, indents := [0], candidate, outer := [none], mayBeKey }

/-- A mapping is open at the start of lines, or none is. -/
def AtMargin (indents : List Nat) : Prop := indents = [] ∨ indents = [0]

/-- The token that opens the mapping in front of its first key. -/
def opening (indents : List Nat) : List Token := if indents = [] then [.blockMapping] else []

variable {T : List Token} {I : List Nat}

theorem closeBlocks_of_atMargin (h : AtMargin x.indents) (column : Nat) :
    x.closeBlocks (column < ·) = x := by
  obtain ⟨tokens, indents, candidate, outer, mayBeKey⟩ := x
  unfold closeBlocks
  split
  · rfl
  · obtain rfl | rfl := h
    · rfl
    · simp

theorem next?_eq {c : Located} (lasts : x.expire c = some y) (margin : AtMargin y.indents) :
    x.next? c rest = y.token c rest := by
  rw [next?, lasts, Option.bind_some, closeBlocks_of_atMargin margin]

theorem token_quoted {q : QuotedText} {more : List Char} {after : Nat}
    (offered : x.offer ⟨'\x22', line, column⟩ = some y)
    (hafter : after = column + q.written.length) :
    x.token ⟨'\x22', line, column⟩ (locate (q.content ++ '\x22' :: more) line (column + 1)) =
      some ({ y.push q.token with mayBeKey := false }, locate more line after) := by
  have hnone : ∀ c ∈ ([] : List Char), isBreak c = false := by simp
  have hlength : after = column + 1 + q.content.length + 1 := by
    simp only [hafter, QuotedText.written, List.length_cons, List.length_append, List.length_nil]
    omega
  rw [token_quote, doubleQuoted_content q.quoted hnone (Nat.succ_pos column) hlength]
  simp only [node, offered, Option.map_some]
  rfl

theorem token_word {c : Char} {p : PlainScalar} (name : isNameChar c) (dash : c ≠ '-')
    (block : x.inFlow = false) (offered : x.offer ⟨c, line, column⟩ = some y)
    (read : plain false (x.indents.head?.elim 0 (· + 1)) (⟨c, line, column⟩ :: rest) = some p) :
    x.token ⟨c, line, column⟩ rest =
      some ({ y.push (.scalar .plain p.text) with mayBeKey := p.endsLine }, p.rest) := by
  rw [token_name name dash, plainScalar, block, offered, read]

theorem locate_written (q : QuotedText) (more : List Char) (line column : Nat) :
    locate (q.written ++ more) line column =
      ⟨'\x22', line, column⟩ :: locate (q.content ++ '\x22' :: more) line (column + 1) := by
  rw [QuotedText.written, List.cons_append, locate_cons (by decide), List.append_assoc,
    List.singleton_append]

theorem leads_of_quoted (q : QuotedText) (more : List Char)
    (lasts : x.expire ⟨'\x22', line, column⟩ = some y) (margin : AtMargin y.indents)
    (offered : y.offer ⟨'\x22', line, column⟩ = some z) :
    Leads x (locate (q.written ++ more) line column) { z.push q.token with mayBeKey := false }
      (locate more line (column + q.written.length)) := by
  have hnext : x.next? ⟨'\x22', line, column⟩
      (locate (q.content ++ '\x22' :: more) line (column + 1)) =
      some ({ z.push q.token with mayBeKey := false },
        locate more line (column + q.written.length)) :=
    (next?_eq lasts margin).trans (token_quoted offered rfl)
  have hstart : IsStart '\x22' := by decide
  rw [locate_written]
  refine leads_of_next hstart hnext ?_
  simp only [length_locate, List.length_append, List.length_cons]
  omega

theorem leads_of_word {letters more : List Char} {p : PlainScalar} (isWord : IsWord letters)
    (lasts : ∀ c, x.expire ⟨c, line, column⟩ = some y) (margin : AtMargin y.indents)
    (block : y.inFlow = false) (offered : ∀ c, y.offer ⟨c, line, column⟩ = some z)
    (read : plain false (y.indents.head?.elim 0 (· + 1)) (locate (letters ++ more) line column) =
      some p) (shorter : p.rest.length ≤ more.length) :
    Leads x (locate (letters ++ more) line column)
      { z.push (.scalar .plain p.text) with mayBeKey := p.endsLine } p.rest := by
  obtain ⟨c, rest, rfl, name, dash⟩ := isWord.exists_cons
  rw [List.cons_append, locate_cons (isInline_of_isNameChar name)] at read ⊢
  have hnext := (next?_eq (lasts c) margin).trans (token_word name dash block (offered c) read)
  refine leads_of_next (isStart_of_isNameChar name) hnext ?_
  rw [length_locate, List.length_append]
  omega

/-- A key is remembered, for nothing tells yet that it is one. -/
theorem leads_of_key (key : Scalar) (hI : AtMargin I) (more : List Char) :
    Leads (atLine T I) (locate (key.written ++ ':' :: ' ' :: more) line 0)
      (afterKey T I line key.token) (locate (':' :: ' ' :: more) line key.written.length) := by
  have hexpire : ∀ c, (atLine T I).expire c = some (atLine T I) := fun _ => rfl
  have hoffer : ∀ c, (atLine T I).offer ⟨c, line, 0⟩ = some { atLine T I with
      candidate := some ⟨T.length, line, 0, I.head? = some 0⟩ } := fun _ => rfl
  cases key with
  | quoted q =>
      have hkey := leads_of_quoted q (':' :: ' ' :: more) (hexpire _) hI (hoffer _)
      rw [Nat.zero_add] at hkey
      exact hkey
  | word letters isWord =>
      have hread : ∀ indent, plain false indent (locate (letters ++ ':' :: ' ' :: more) line 0) =
          some ⟨letters, false, locate (':' :: ' ' :: more) line letters.length⟩ :=
        fun _ => plain_of_colon isWord.names (Nat.zero_add _).symm
      exact leads_of_word isWord (fun _ => rfl) hI rfl hoffer (hread _) (length_locate ..).le

theorem next?_colon (t : Token) (hI : AtMargin I) (short : column ≤ 1024) (rest : Source) :
    (afterKey T I line t).next? ⟨':', line, column⟩ (⟨' ', line, column + 1⟩ :: rest) =
      some (inLine (.value :: t :: .key :: (opening I ++ T)), ⟨' ', line, column + 1⟩ :: rest) := by
  have hlasts : (afterKey T I line t).expire ⟨':', line, column⟩ = some (afterKey T I line t) := by
    simp [expire, afterKey, Candidate.lasts, short]
  rw [next?_eq hlasts hI, token_colon _ rfl]
  obtain rfl | rfl := hI
  · simp [value, afterKey, insertKey, opensAt, inFlow, push, inLine, opening]
  · simp [value, afterKey, insertKey, opensAt, inFlow, push, inLine, opening]

theorem next?_colon_of_long (t : Token) (hI : AtMargin I) (long : 1024 < column) (rest : Source) :
    (afterKey T I line t).next? ⟨':', line, column⟩ (⟨' ', line, column + 1⟩ :: rest) = none := by
  -- the first key is only forgotten, and then the colon has nothing in front of it; any later
  -- one has to be a key where it stands
  obtain rfl | rfl := hI
  · have hexpire : (afterKey T [] line t).expire ⟨':', line, column⟩ =
        some { afterKey T [] line t with candidate := none } := by
      simp [expire, afterKey, Candidate.lasts, long]
    rw [next?_eq hexpire (.inl rfl), token_colon _ rfl]
    rfl
  · simp [next?, expire, afterKey, Candidate.lasts, long]

theorem leads_of_scalar (v : Scalar) {more : List Char}
    (hnext : ∀ c ∈ more.head?, isWhite c = false) :
    Leads (inLine T) (locate (v.written ++ '\n' :: more) line column)
      (atLine (v.token :: T) [0]) (locate more (line + 1) 0) := by
  have hexpire : ∀ c, (inLine T).expire c = some (inLine T) := fun _ => rfl
  have hoffer : ∀ c, (inLine T).offer c = some (inLine T) := fun _ => rfl
  have margin : AtMargin (inLine T).indents := .inr rfl
  cases v with
  | quoted q =>
      have hquoted := leads_of_quoted q ('\n' :: more) (hexpire ⟨_, line, column⟩) margin (hoffer _)
      exact hquoted.trans (leads_of_newline rfl line _ more)
  | word letters isWord =>
      have hread : plain false 1 (locate (letters ++ '\n' :: more) line column) =
          some ⟨letters, true, locate more (line + 1) 0⟩ :=
        plain_of_newline isWord.names (Nat.succ_pos 0) hnext
      have hshorter : (locate more (line + 1) 0).length ≤ ('\n' :: more).length := by
        rw [length_locate, List.length_cons]
        omega
      exact leads_of_word isWord (fun _ => hexpire _) margin rfl (fun _ => hoffer _) hread hshorter

/-! ## The tokens of a list -/

/-- A candidate that can be lost. -/
def Loose (k : Option Candidate) : Prop := ∀ c ∈ k, c.required = false

theorem Loose.none : Loose none := by
  intro c hc
  cases hc

variable {k : Option Candidate} {mayBeKey : Bool}

theorem Loose.expire (h : Loose k) (T : List Token) (mayBeKey : Bool) (c : Located) :
    ∃ k', Loose k' ∧ (inList T k mayBeKey).expire c = some (inList T k' mayBeKey) := by
  refine ⟨k.filter (·.lasts c), fun k' hk' => h k' (Option.filter_eq_some_iff.mp hk').1, ?_⟩
  cases k with
  | none => rfl
  | some k => simp [Lexer.expire, inList, h k rfl]

theorem Loose.dropCandidate (h : Loose k) (T : List Token) (mayBeKey : Bool) :
    (inList T k mayBeKey).dropCandidate = some (inList T .none mayBeKey) := by
  cases k with
  | none => rfl
  | some k => simp [Lexer.dropCandidate, inList, h k rfl]

theorem leads_of_open (T : List Token) (more : List Char) (line column : Nat) :
    Leads (inLine T) (locate ('[' :: more) line column) (inList (.flowSequence :: T) .none true)
      (locate more line (column + 1)) := by
  have hexpire : ∀ c, (inLine T).expire c = some (inLine T) := fun _ => rfl
  have hstart : IsStart '[' := by decide
  rw [locate_cons (by decide)]
  refine leads_of_next hstart ?_ (Nat.le_refl _)
  rw [next?_eq (hexpire _) (.inr rfl), token_open]
  rfl

theorem leads_of_close (hk : Loose k) (T : List Token) (mayBeKey : Bool) (more : List Char)
    (line column : Nat) :
    Leads (inList T k mayBeKey) (locate (']' :: more) line column)
      (inLine (.flowSequenceEnd :: T)) (locate more line (column + 1)) := by
  have hstart : IsStart ']' := by decide
  rw [locate_cons (by decide)]
  obtain ⟨k', hk', hexpire⟩ := hk.expire T mayBeKey ⟨']', line, column⟩
  refine leads_of_next hstart ?_ (Nat.le_refl _)
  rw [next?_eq hexpire (.inr rfl), token_close, closeFlow, hk'.dropCandidate]
  rfl

theorem leads_of_comma (hk : Loose k) (T : List Token) (mayBeKey : Bool) (more : List Char)
    (line column : Nat) :
    Leads (inList T k mayBeKey) (locate (',' :: ' ' :: more) line column)
      (inList (.comma :: T) .none true) (locate more line (column + 2)) := by
  have hstart : IsStart ',' := by decide
  have hcomma : Leads (inList T k mayBeKey) (locate (',' :: ' ' :: more) line column)
      (inList (.comma :: T) .none true) (locate (' ' :: more) line (column + 1)) := by
    rw [locate_cons (by decide)]
    obtain ⟨k', hk', hexpire⟩ := hk.expire T mayBeKey ⟨',', line, column⟩
    refine leads_of_next hstart ?_ (Nat.le_refl _)
    rw [next?_eq hexpire (.inr rfl), token_comma, hk'.dropCandidate]
    rfl
  exact hcomma.trans (leads_of_space ..)

/-- An item is remembered like a key, and nothing comes of it. -/
theorem leads_of_item (hk : Loose k) (T : List Token) (q : QuotedText) (more : List Char)
    (line column : Nat) :
    ∃ k', Loose k' ∧ Leads (inList T k true) (locate (q.written ++ more) line column)
      (inList (q.token :: T) k' false) (locate more line (column + q.written.length)) := by
  obtain ⟨k', hk', hexpire⟩ := hk.expire T true ⟨'\x22', line, column⟩
  have hoffer : (inList T k' true).offer ⟨'\x22', line, column⟩ =
      some (inList T (some ⟨T.length, line, column, false⟩) true) := by
    rw [offer, hk'.dropCandidate]
    rfl
  have hloose : Loose (some ⟨T.length, line, column, false⟩) := by
    intro c hc
    cases hc
    rfl
  exact ⟨_, hloose, leads_of_quoted q more hexpire (.inr rfl) hoffer⟩

/-- The items of a list and the mark that ends it. -/
theorem leads_of_items (hk : Loose k) (T : List Token) (items : List QuotedText)
    {more : List Char} {after : Nat} (hafter : after = column + (writtenItems items).length + 1) :
    Leads (inList T k true) (locate (writtenItems items ++ ']' :: more) line column)
      (inLine (.flowSequenceEnd :: ((itemTokens items).reverse ++ T)))
      (locate more line after) := by
  induction items generalizing T k column with
  | nil =>
      obtain rfl := hafter
      exact leads_of_close hk T true more line column
  | cons q items ih =>
      cases items with
      | nil =>
          obtain rfl := hafter
          obtain ⟨k', hk', hitem⟩ := leads_of_item hk T q (']' :: more) line column
          exact hitem.trans (leads_of_close hk' _ false more line _)
      | cons next items =>
          have hlength : after = column + q.written.length + 2 +
              (writtenItems (next :: items)).length + 1 := by
            simp only [hafter, writtenItems, List.length_append, List.length_cons]
            omega
          obtain ⟨k', hk', hitem⟩ := leads_of_item hk T q
            (',' :: ' ' :: (writtenItems (next :: items) ++ ']' :: more)) line column
          have hcomma := leads_of_comma hk' (q.token :: T) false
            (writtenItems (next :: items) ++ ']' :: more) line (column + q.written.length)
          have hrest := ih Loose.none (.comma :: q.token :: T) hlength
          have htokens : (itemTokens (q :: next :: items)).reverse ++ T =
              (itemTokens (next :: items)).reverse ++ .comma :: q.token :: T := by
            simp [itemTokens]
          have hwritten : writtenItems (q :: next :: items) ++ ']' :: more =
              q.written ++ ',' :: ' ' :: (writtenItems (next :: items) ++ ']' :: more) := by
            simp [writtenItems]
          rw [htokens, hwritten]
          exact hitem.trans (hcomma.trans hrest)

theorem leads_of_value (v : Value) (T : List Token) {more : List Char}
    (hnext : ∀ c ∈ more.head?, isWhite c = false) :
    Leads (inLine T) (locate (v.written ++ '\n' :: more) line column)
      (atLine (v.tokens.reverse ++ T) [0]) (locate more (line + 1) 0) := by
  cases v with
  | scalar v => exact leads_of_scalar v hnext
  | list items =>
      have hwritten : (Value.list items).written ++ '\n' :: more =
          '[' :: (writtenItems items ++ ']' :: '\n' :: more) := by
        simp [Value.written]
      have htokens : (Value.list items).tokens.reverse ++ T =
          .flowSequenceEnd :: ((itemTokens items).reverse ++ .flowSequence :: T) := by
        simp [Value.tokens]
      rw [hwritten, htokens]
      exact ((leads_of_open ..).trans (leads_of_items Loose.none _ items rfl)).trans
        (leads_of_newline rfl line _ more)

/-! ## The tokens of lines -/

theorem leads_of_line (l : Line) (short : l.key.written.length ≤ 1024) (T : List Token)
    (hI : AtMargin I) {more : List Char} (hnext : ∀ c ∈ more.head?, isWhite c = false)
    (line : Nat) :
    Leads (atLine T I) (locate (l.written ++ more) line 0)
      (atLine (l.tokens.reverse ++ (opening I ++ T)) [0]) (locate more (line + 1) 0) := by
  have hwritten : l.written ++ more =
      l.key.written ++ ':' :: ' ' :: (l.value.written ++ '\n' :: more) := by
    simp [Line.written, Line.content]
  have htokens : l.tokens.reverse ++ (opening I ++ T) =
      l.value.tokens.reverse ++ .value :: l.key.token :: .key :: (opening I ++ T) := by
    simp [Line.tokens]
  have hstart : IsStart ':' := by decide
  have hcolon : Leads (afterKey T I line l.key.token)
      (locate (':' :: ' ' :: (l.value.written ++ '\n' :: more)) line l.key.written.length)
      (inLine (.value :: l.key.token :: .key :: (opening I ++ T)))
      (locate (l.value.written ++ '\n' :: more) line (l.key.written.length + 2)) := by
    refine Leads.trans ?_ (leads_of_space ..)
    rw [locate_cons (by decide), locate_cons (by decide)]
    exact leads_of_next hstart (next?_colon l.key.token hI short _) (Nat.le_refl _)
  rw [hwritten, htokens]
  exact ((leads_of_key l.key hI _).trans hcolon).trans (leads_of_value l.value _ hnext)

/-- A line whose key is too long for one is not read. -/
theorem leads_of_long (l : Line) (long : 1024 < l.key.written.length) (hI : AtMargin I)
    (more : List Char) : ∃ x s, Leads (atLine T I) (locate (l.written ++ more) line 0) x s ∧
      ∀ fuel, run fuel x s = none := by
  have hwritten : l.written ++ more =
      l.key.written ++ ':' :: ' ' :: (l.value.written ++ '\n' :: more) := by
    simp [Line.written, Line.content]
  have hstart : IsStart ':' := by decide
  rw [hwritten]
  refine ⟨_, _, leads_of_key l.key hI _, ?_⟩
  rw [locate_cons (by decide), locate_cons (by decide)]
  exact run_eq_none hstart (next?_colon_of_long l.key.token hI long _)

theorem isWhite_head_writtenLines (lines : List Line) :
    ∀ c ∈ (writtenLines lines).head?, isWhite c = false := by
  cases lines with
  | nil => simp [writtenLines]
  | cons l lines =>
      obtain ⟨key, value⟩ := l
      intro c hc
      cases key with
      | quoted q =>
          obtain rfl : '\x22' = c := Option.some.inj hc
          rfl
      | word letters isWord =>
          obtain ⟨d, letters, rfl, name, -⟩ := isWord.exists_cons
          obtain rfl : d = c := Option.some.inj hc
          exact isWhite_of_isNameChar name

/-- Lines make their tokens one after the other. -/
theorem leads_of_lines {lines : List Line} (short : ∀ l ∈ lines, l.key.written.length ≤ 1024)
    (hI : AtMargin I) (hopen : lines ≠ [] ∨ I = [0]) (T : List Token) (line : Nat) :
    Leads (atLine T I) (locate (writtenLines lines) line 0)
      (atLine ((lines.flatMap Line.tokens).reverse ++ (opening I ++ T)) [0]) [] := by
  induction lines generalizing T I line with
  | nil =>
      obtain rfl := hopen.resolve_left (· rfl)
      exact .refl _ _
  | cons l lines ih =>
      obtain ⟨hshort, hlines⟩ := List.forall_mem_cons.mp short
      have hline := leads_of_line l hshort T hI (isWhite_head_writtenLines lines) line
      have hrest := ih hlines (.inr rfl) (.inr rfl) (l.tokens.reverse ++ (opening I ++ T))
        (line + 1)
      have htokens : ((l :: lines).flatMap Line.tokens).reverse ++ (opening I ++ T) =
          (lines.flatMap Line.tokens).reverse ++
            (opening [0] ++ (l.tokens.reverse ++ (opening I ++ T))) := by
        simp [opening]
      rw [htokens]
      exact hline.trans hrest

/-- A key that is too long ends the reading wherever it stands. -/
theorem leads_of_lines_of_long {lines : List Line} (long : ∃ l ∈ lines, 1024 < l.key.written.length)
    (hI : AtMargin I) (T : List Token) (line : Nat) :
    ∃ x s, Leads (atLine T I) (locate (writtenLines lines) line 0) x s ∧
      ∀ fuel, run fuel x s = none := by
  induction lines generalizing T I line with
  | nil =>
      obtain ⟨l, hl, -⟩ := long
      cases hl
  | cons l lines ih =>
      by_cases hlong : 1024 < l.key.written.length
      · exact leads_of_long l hlong hI (writtenLines lines)
      · have hline := leads_of_line l (Nat.not_lt.mp hlong) T hI (isWhite_head_writtenLines lines)
          line
        obtain ⟨other, hmem, hother⟩ := long
        obtain rfl | hmem := List.mem_cons.mp hmem
        · exact absurd hother hlong
        · obtain ⟨x, s, hrest, hnone⟩ := ih ⟨other, hmem, hother⟩ (.inr rfl)
            (l.tokens.reverse ++ (opening I ++ T)) (line + 1)
          exact ⟨x, s, hline.trans hrest, hnone⟩

theorem run_nil (fuel : Nat) (x : Lexer) : run fuel x [] = x.finish := by
  cases fuel <;> rfl

theorem finish_atLine (T : List Token) :
    (atLine T [0]).finish = some (T.reverse ++ [.blockEnd]) := by
  show some (Token.blockEnd :: T).reverse = _
  rw [List.reverse_cons]

end Lexer

open Lexer

/-- Lines have the tokens of a mapping, except that a key of more than 1024 characters
is not taken for one. -/
theorem tokens_writtenLines {lines : List Line} (hne : lines ≠ []) :
    tokens (writtenLines lines) =
      if ∀ l ∈ lines, l.key.written.length ≤ 1024 then
        some (.blockMapping :: (lines.flatMap Line.tokens ++ [.blockEnd]))
      else none := by
  have hstart : ({} : Lexer) = atLine [] [] := rfl
  rw [tokens, if_pos (all_isAllowed lines), normalized_of_inline fun c => inline_or_newline, hstart]
  split
  · next short =>
      obtain ⟨fuel, hrun⟩ := (leads_of_lines short (.inl rfl) (.inl hne) [] 0).run_eq
      rw [hrun, run_nil, finish_atLine]
      simp [opening]
  · next long =>
      simp only [not_forall, exists_prop, Nat.not_le] at long
      obtain ⟨x, s, hleads, hnone⟩ := leads_of_lines_of_long long (.inl rfl) [] 0
      obtain ⟨fuel, hrun⟩ := hleads.run_eq
      rw [hrun, hnone]

end GoldenFiles.Yaml
