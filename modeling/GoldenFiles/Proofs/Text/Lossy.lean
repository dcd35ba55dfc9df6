import GoldenFiles.Proofs.Text.Pieces

/-!
# What lossy decoding shows

Bytes that are no text are shown as one all the same: wherever no character stands, the
longest part that a character could have begun with becomes one replacement character, or a
single byte if there is no such part. `Shows` is that rule, told without a machine, and
`shows_iff` says that it is what lossy decoding does.

The machine is compared with the rule through its open state alone. After a part that has
opened a character (`LeadsTo`) the bytes that are let in are exactly those that complete the
part to the beginning of a character. One half is that an open character can always be
completed; the other is that what is completed is the spelling of one, which strict decoding
has settled already.

A byte that is a character of its own is never let in, so it ends whatever is open. Hence it
does not matter whether bytes are cut at it before they are decoded or after.
-/

namespace GoldenFiles.Utf8

/-- A part that some character begins with. -/
def Begins (part : Bytes) : Prop := ∃ c, part <+: encodeChar c

/-- A part that is shown as one replacement character in front of a rest. -/
structure IsBroken (part rest : Bytes) : Prop where
  no_char : ∀ c, ¬encodeChar c <+: part ++ rest
  ne_nil : part ≠ []
  begins : Begins part ∨ part.length = 1
  longest : ∀ longer, longer <+: part ++ rest → Begins longer → longer.length ≤ part.length

/-- The text that bytes are shown as. -/
inductive Shows : Bytes → List Char → Prop where
  | nil : Shows [] []
  | char (c : Char) {rest : Bytes} {text : List Char} (h : Shows rest text) :
      Shows (encodeChar c ++ rest) (c :: text)
  | broken {part rest : Bytes} {text : List Char} (h : IsBroken part rest) (h' : Shows rest text) :
      Shows (part ++ rest) (replacement :: text)

theorem IsBroken.length_le {part rest part' rest' : Bytes} (h : IsBroken part rest)
    (h' : IsBroken part' rest') (heq : part ++ rest = part' ++ rest') :
    part.length ≤ part'.length := by
  rcases h.begins with hbegins | hone
  · exact h'.longest part (heq ▸ List.prefix_append part rest) hbegins
  · have hpos := List.length_pos_iff.mpr h'.ne_nil
    omega

theorem IsBroken.unique {part rest part' rest' : Bytes} (h : IsBroken part rest)
    (h' : IsBroken part' rest') (heq : part ++ rest = part' ++ rest') :
    part = part' ∧ rest = rest' :=
  List.append_inj heq (Nat.le_antisymm (h.length_le h' heq) (h'.length_le h heq.symm))

/-! ## Open characters -/

/-- Bounds that a first byte can set for the next one. -/
structure Pending.Proper (p : Pending) : Prop where
  low : 0x80 ≤ p.low
  le : p.low ≤ p.high
  high : p.high < 0x100

theorem proper_next (needed value : Nat) : Pending.Proper ⟨needed, 0x80, 0xBF, value⟩ :=
  ⟨Nat.le_refl _, (by decide : 0x80 ≤ 0xBF), (by decide : 0xBF < 0x100)⟩

theorem proper_of_lead {b : UInt8} {p : Pending} (h : lead b = .opens p) : p.Proper := by
  have hb := b.toNat_lt
  by_cases h1 : b.toNat < 0x80
  · rw [lead_one h1] at h
    cases h
  · by_cases h2 : b.toNat < 0xC2 ∨ 0xF5 ≤ b.toNat
    · rw [lead_stray (by omega)] at h
      cases h
    · by_cases h3 : b.toNat < 0xE0
      · rw [lead_two (by omega) h3] at h
        exact Lead.opens.inj h ▸ proper_next _ _
      · by_cases h4 : b.toNat < 0xF0
        · rw [lead_three (by omega) h4] at h
          obtain rfl := Lead.opens.inj h
          refine ⟨?_, ?_, ?_⟩ <;> dsimp only <;> (repeat' split) <;> omega
        · rw [lead_four (by omega) (by omega)] at h
          obtain rfl := Lead.opens.inj h
          refine ⟨?_, ?_, ?_⟩ <;> dsimp only <;> (repeat' split) <;> omega

theorem scanFrom_of_outside {p : Pending} {b : UInt8} (h : ¬(p.low ≤ b.toNat ∧ b.toNat ≤ p.high))
    (bytes : Bytes) : scanFrom (some p) (b :: bytes) = none :: scanFrom none (b :: bytes) := by
  conv_rhs => rw [scanFrom]
  rw [scanFrom, if_neg h]

theorem Pending.Proper.in_bounds {p : Pending} (h : p.Proper) :
    p.low ≤ (UInt8.ofNat p.low).toNat ∧ (UInt8.ofNat p.low).toNat ≤ p.high := by
  have hle := h.le
  have hhigh := h.high
  rw [toNat_ofNat (by omega)]
  exact ⟨Nat.le_refl _, hle⟩

/-- A byte that is let in completes the open character or leaves it open. -/
theorem scanFrom_of_inside {p : Pending} {b : UInt8} (h : p.low ≤ b.toNat ∧ b.toNat ≤ p.high)
    (bytes : Bytes) : scanFrom (some p) (b :: bytes) =
      if p.needed ≤ 1 then
        some (Char.ofNat (p.value * 64 + (b.toNat - 0x80))) :: scanFrom none bytes
      else
        scanFrom (some ⟨p.needed - 1, 0x80, 0xBF, p.value * 64 + (b.toNat - 0x80)⟩) bytes := by
  rw [scanFrom, if_pos h]

/-- An open character can be completed. -/
theorem Pending.Proper.exists_completion {p : Pending} (h : p.Proper) :
    ∃ more c, scanFrom (some p) more = [some c] := by
  obtain ⟨needed, low, high, value⟩ := p
  induction needed generalizing low high value with
  | zero =>
      exact ⟨[.ofNat low], _, (scanFrom_of_inside h.in_bounds []).trans (if_pos (by simp))⟩
  | succ needed ih =>
      cases needed with
      | zero => exact ⟨[.ofNat low], _, scanFrom_last h.in_bounds []⟩
      | succ needed =>
          obtain ⟨more, c, hmore⟩ := ih 0x80 0xBF _ (proper_next _ _)
          exact ⟨.ofNat low :: more, c, (scanFrom_next h.in_bounds more).trans hmore⟩

/-- A part after which a character is open. -/
def LeadsTo (part : Bytes) (p : Pending) : Prop :=
  ∀ bytes, scanFrom none (part ++ bytes) = scanFrom (some p) bytes

theorem eq_encodeChar_of_scan {bytes : Bytes} {c : Char} (h : scanFrom none bytes = [some c]) :
    bytes = encodeChar c := by
  have hdecode : decodeChars? bytes = some [c] := by
    rw [decodeChars?, scan, h]
    rfl
  rw [(decodeChars?_eq_some_iff bytes [c]).mp hdecode, encodeChars, List.flatMap_singleton]

/-- A part that leaves a broken part behind is not the beginning of a character. -/
theorem not_begins_of_none {part : Bytes} (h : ∀ bytes, none ∈ scanFrom none (part ++ bytes)) :
    ¬Begins part := by
  rintro ⟨c, more, hc⟩
  have hscan := scanFrom_encodeChar c []
  rw [List.append_nil, ← hc, scanFrom] at hscan
  have hnone := h more
  rw [hscan] at hnone
  simp at hnone

section Open

variable {part bytes : Bytes} {p : Pending}

theorem LeadsTo.begins (h : LeadsTo part p) (hp : p.Proper) : Begins part := by
  obtain ⟨more, c, hmore⟩ := hp.exists_completion
  rw [← h more] at hmore
  exact ⟨c, eq_encodeChar_of_scan hmore ▸ List.prefix_append part more⟩

theorem LeadsTo.not_begins (h : LeadsTo part p) {b : UInt8}
    (hout : ¬(p.low ≤ b.toNat ∧ b.toNat ≤ p.high)) : ¬Begins (part ++ [b]) := by
  refine not_begins_of_none fun bytes => ?_
  rw [List.append_assoc, h, List.singleton_append, scanFrom_of_outside hout]
  exact List.mem_cons_self

/-- Nothing longer than a part is the beginning of a character if the part and the next byte
are not. -/
theorem longest_of_not_begins (h : ∀ b rest, bytes = b :: rest → ¬Begins (part ++ [b])) :
    ∀ longer, longer <+: part ++ bytes → Begins longer → longer.length ≤ part.length := by
  intro longer hlonger ⟨c, hc⟩
  by_contra hlt
  cases bytes with
  | nil =>
      have := hlonger.length_le
      rw [List.append_nil] at this
      exact hlt this
  | cons b rest =>
      have hfront : part ++ [b] <+: part ++ b :: rest := ⟨rest, by simp⟩
      have hlength : (part ++ [b]).length ≤ longer.length := by
        rw [List.length_append, List.length_singleton]
        omega
      have hnext : part ++ [b] <+: longer :=
        List.prefix_of_prefix_length_le hfront hlonger hlength
      exact h b rest rfl ⟨c, hnext.trans hc⟩

/-- Where a character is open but none stands, the part that is broken off is as long as bytes
are let in. -/
theorem LeadsTo.exists_broken (h : LeadsTo part p) (hp : p.Proper) (hne : part ≠ [])
    (hno : ∀ c, ¬encodeChar c <+: part ++ bytes) : ∃ more rest, bytes = more ++ rest ∧
      IsBroken (part ++ more) rest ∧ scanFrom (some p) bytes = none :: scanFrom none rest := by
  induction bytes generalizing part p with
  | nil =>
      refine ⟨[], [], rfl, ⟨by simpa using hno, by simpa using hne, ?_, ?_⟩, rfl⟩
      · rw [List.append_nil]
        exact .inl (h.begins hp)
      · intro longer hlonger _
        simpa using hlonger.length_le
  | cons b bytes ih =>
      by_cases hin : p.low ≤ b.toNat ∧ b.toNat ≤ p.high
      · have hassoc : part ++ b :: bytes = part ++ [b] ++ bytes := by simp
        by_cases hlast : p.needed ≤ 1
        · -- the byte completes a character, which would stand here
          have hwhole : scanFrom none (part ++ [b]) =
              [some (Char.ofNat (p.value * 64 + (b.toNat - 0x80)))] := by
            rw [h, scanFrom_of_inside hin, if_pos hlast, scanFrom]
          refine absurd ⟨bytes, ?_⟩ (hno (Char.ofNat (p.value * 64 + (b.toNat - 0x80))))
          rw [← eq_encodeChar_of_scan hwhole, hassoc]
        · have hscan (more : Bytes) : scanFrom (some p) (b :: more) = scanFrom
              (some ⟨p.needed - 1, 0x80, 0xBF, p.value * 64 + (b.toNat - 0x80)⟩) more := by
            rw [scanFrom_of_inside hin, if_neg hlast]
          have hleads : LeadsTo (part ++ [b])
              ⟨p.needed - 1, 0x80, 0xBF, p.value * 64 + (b.toNat - 0x80)⟩ := by
            intro more
            rw [List.append_assoc, h, List.singleton_append, hscan]
          obtain ⟨more, rest, rfl, hbroken, hrest⟩ :=
            ih hleads (proper_next _ _) (List.concat_ne_nil b part) (hassoc ▸ hno)
          refine ⟨b :: more, rest, rfl, ?_, ?_⟩
          · rwa [List.append_assoc, List.singleton_append] at hbroken
          · rw [hscan]
            exact hrest
      · refine ⟨[], b :: bytes, rfl, ?_, scanFrom_of_outside hin bytes⟩
        rw [List.append_nil]
        refine ⟨hno, hne, .inl (h.begins hp), longest_of_not_begins fun b' rest heq => ?_⟩
        rw [← (List.cons.inj heq).1]
        exact h.not_begins hin

end Open

/-! ## The rule -/

/-- Where no character stands, a broken part does, and one mark is read for it. -/
theorem exists_broken {b : UInt8} {bytes : Bytes} (hno : ∀ c, ¬encodeChar c <+: b :: bytes) :
    ∃ part rest, b :: bytes = part ++ rest ∧ IsBroken part rest ∧
      scanFrom none (b :: bytes) = none :: scanFrom none rest := by
  cases hlead : lead b with
  | whole c =>
      have hwhole : scanFrom none [b] = [some c] := by simp only [scanFrom, hlead]
      exact absurd (eq_encodeChar_of_scan hwhole ▸ List.prefix_append [b] bytes) (hno c)
  | opens p =>
      have hscan (more : Bytes) : scanFrom none (b :: more) = scanFrom (some p) more := by
        simp only [scanFrom, hlead]
      have hleads : LeadsTo [b] p := hscan
      obtain ⟨more, rest, rfl, hbroken, hrest⟩ :=
        hleads.exists_broken (proper_of_lead hlead) (by simp) hno
      exact ⟨_, rest, rfl, hbroken, (hscan _).trans hrest⟩
  | stray =>
      have hscan (more : Bytes) : scanFrom none (b :: more) = none :: scanFrom none more := by
        simp only [scanFrom, hlead]
      refine ⟨[b], bytes, rfl, ⟨hno, by simp, .inr rfl, longest_of_not_begins ?_⟩, hscan bytes⟩
      rintro b' rest -
      refine not_begins_of_none fun more => ?_
      rw [List.append_assoc, List.singleton_append, hscan]
      exact List.mem_cons_self

theorem IsBroken.scanFrom_eq {part rest : Bytes} (h : IsBroken part rest) :
    scanFrom none (part ++ rest) = none :: scanFrom none rest := by
  obtain ⟨b, more, rfl⟩ := List.exists_cons_of_ne_nil h.ne_nil
  obtain ⟨part', rest', heq, hbroken, hscan⟩ := exists_broken h.no_char
  obtain ⟨-, rfl⟩ := h.unique hbroken heq
  exact hscan

theorem shows_decodeLossyChars (bytes : Bytes) : Shows bytes (decodeLossyChars bytes) := by
  induction hn : bytes.length using Nat.strongRecOn generalizing bytes with
  | ind n ih =>
      cases bytes with
      | nil => exact .nil
      | cons b bytes =>
          by_cases hchar : ∃ c, encodeChar c <+: b :: bytes
          · obtain ⟨c, rest, hc⟩ := hchar
            have hpos := List.length_pos_iff.mpr (encodeChar_ne_nil c)
            have hlen := congrArg List.length hc
            rw [List.length_append] at hlen
            rw [← hc, decodeLossyChars, scan, scanFrom_encodeChar]
            exact .char c (ih rest.length (by omega) rest rfl)
          · obtain ⟨part, rest, heq, hbroken, hscan⟩ :=
              exists_broken fun c hc => hchar ⟨c, hc⟩
            have hpos := List.length_pos_iff.mpr hbroken.ne_nil
            have hlen := congrArg List.length heq
            rw [List.length_append] at hlen
            rw [decodeLossyChars, scan, hscan, heq]
            exact .broken hbroken (ih rest.length (by omega) rest rfl)

/-- Lossy decoding is the rule: a character where one stands, and otherwise one replacement
character for the longest part that could have become one. -/
theorem shows_iff (bytes : Bytes) (text : List Char) :
    Shows bytes text ↔ text = decodeLossyChars bytes := by
  constructor
  · intro h
    induction h with
    | nil => rfl
    | char c _ ih =>
        rw [decodeLossyChars, scan, scanFrom_encodeChar, List.map_cons, ih]
        rfl
    | broken h _ ih =>
        rw [decodeLossyChars, scan, h.scanFrom_eq, List.map_cons, ih]
        rfl
  · rintro rfl
    exact shows_decodeLossyChars bytes

/-! ## Bytes that are characters of their own -/

section Separator

variable {sep : UInt8} {c : Char} (one : encodeChar c = [sep])

include one

theorem lead_sep : lead sep = .whole c := by
  obtain ⟨n, hn, rfl, rfl⟩ := of_encodeChar_eq one
  have hb : (UInt8.ofNat n).toNat = n := toNat_ofNat (by omega)
  rw [lead_one (by omega), hb]

theorem sep_lt : sep.toNat < 0x80 := by
  obtain ⟨n, hn, rfl, rfl⟩ := of_encodeChar_eq one
  rw [toNat_ofNat (by omega)]
  exact hn

/-- A separator ends what is open before it, and nothing is open behind it. -/
theorem scanFrom_append_sep (start : Option Pending) (hstart : ∀ p ∈ start, p.Proper)
    (front back : Bytes) : scanFrom start (front ++ sep :: back) =
      scanFrom start front ++ some c :: scanFrom none back := by
  have hsep : scanFrom none (sep :: back) = some c :: scanFrom none back := by
    simp only [scanFrom, lead_sep one]
  induction front generalizing start with
  | nil =>
      cases start with
      | none => exact hsep
      | some p =>
          have hlow := (hstart p rfl).low
          have hlt := sep_lt one
          rw [List.nil_append, scanFrom_of_outside (by omega), hsep]
          rfl
  | cons b front ih =>
      have hnone (b : UInt8) : scanFrom none (b :: (front ++ sep :: back)) =
          scanFrom none (b :: front) ++ some c :: scanFrom none back := by
        cases hlead : lead b with
        | whole d => simp only [scanFrom, hlead, ih none (by simp), List.cons_append]
        | opens p =>
            simp only [scanFrom, hlead]
            exact ih (some p) fun q hq => Option.some.inj hq ▸ proper_of_lead hlead
        | stray => simp only [scanFrom, hlead, ih none (by simp), List.cons_append]
      rw [List.cons_append]
      cases start with
      | none => exact hnone b
      | some p =>
          by_cases hin : p.low ≤ b.toNat ∧ b.toNat ≤ p.high
          · rw [scanFrom_of_inside hin, scanFrom_of_inside hin]
            by_cases hlast : p.needed ≤ 1
            · rw [if_pos hlast, if_pos hlast, ih none (by simp)]
              rfl
            · rw [if_neg hlast, if_neg hlast]
              exact ih _ fun q hq => Option.some.inj hq ▸ proper_next _ _
          · rw [scanFrom_of_outside hin, scanFrom_of_outside hin, hnone]
            rfl

theorem decodeLossyChars_append_sep (front back : Bytes) :
    decodeLossyChars (front ++ sep :: back) =
      decodeLossyChars front ++ c :: decodeLossyChars back := by
  rw [decodeLossyChars, scan, scanFrom_append_sep one none (by simp), List.map_append,
    List.map_cons]
  rfl

/-- It does not matter whether pieces are decoded before they are joined or after. -/
theorem decodeLossyChars_join (pieces : List Bytes) :
    decodeLossyChars (Separated.join sep pieces) =
      Separated.join c (pieces.map decodeLossyChars) := by
  induction pieces with
  | nil => rfl
  | cons piece pieces ih =>
      cases pieces with
      | nil => simp [Separated.join, List.intercalate]
      | cons next rest =>
          rw [← List.singleton_append, Separated.join_append sep (by simp) (by simp), List.map_append,
            Separated.join_append c (by simp) (by simp), ← ih]
          simp only [Separated.join, List.intercalate, List.intersperse_singleton, List.flatten_cons,
            List.flatten_nil, List.append_nil, List.map_cons, List.map_nil]
          exact decodeLossyChars_append_sep one _ _

/-- A character of one byte is shown just if its byte is there. -/
theorem mem_decodeLossyChars_iff (bytes : Bytes) : c ∈ decodeLossyChars bytes ↔ sep ∈ bytes := by
  constructor
  · have hshows := shows_decodeLossyChars bytes
    generalize decodeLossyChars bytes = text at hshows
    intro hmem
    induction hshows with
    | nil => cases hmem
    | char d _ ih =>
        rcases List.mem_cons.mp hmem with rfl | hmem
        · simp [one]
        · exact List.mem_append_right _ (ih hmem)
    | broken _ _ ih =>
        rcases List.mem_cons.mp hmem with rfl | hmem
        · have hlong : (encodeChar replacement).length = 3 := by decide
          rw [one] at hlong
          cases hlong
        · exact List.mem_append_right _ (ih hmem)
  · intro hmem
    obtain ⟨front, back, rfl⟩ := List.append_of_mem hmem
    rw [decodeLossyChars_append_sep one]
    exact List.mem_append_right _ List.mem_cons_self

end Separator

end GoldenFiles.Utf8
