import GoldenFiles.Text.Utf8

/-!
# Decoding is the inverse of encoding

A text is written in one way only, and the bytes that strict decoding accepts
are exactly the written texts. The argument is about the first character alone:
the bytes of a character are read as that character, and bytes that are not
read as a broken part begin with the bytes of the character they are read as.
Which form a character takes is decided by its number, so both halves are a case
distinction on the width followed by arithmetic on the number's six-bit digits.
-/

namespace GoldenFiles.Utf8

theorem toNat_ofNat {n : Nat} (h : n < 256) : (UInt8.ofNat n).toNat = n :=
  UInt8.toNat_ofNat_of_lt' h

theorem ofNat_toNat_char (c : Char) : Char.ofNat c.toNat = c := Char.ofNat_toNat c

theorem toNat_char_ofNat {n : Nat} (h : n.isValidChar) : (Char.ofNat n).toNat = n := by
  unfold Char.ofNat
  rw [dif_pos h]
  rfl

theorem valid (c : Char) : c.toNat < 0xD800 ∨ 0xDFFF < c.toNat ∧ c.toNat < 0x110000 := c.valid

theorem eq_ofNat {b : UInt8} {n : Nat} (h : b.toNat = n) : b = .ofNat n := by
  rw [← h, UInt8.ofNat_toNat]

/-! ## The first byte of a character -/

theorem lead_one {b : UInt8} (h : b.toNat < 0x80) : lead b = .whole (Char.ofNat b.toNat) := by
  simp only [lead, h, if_true]

theorem lead_two {b : UInt8} (h : 0xC2 ≤ b.toNat) (h' : b.toNat < 0xE0) :
    lead b = .opens ⟨1, 0x80, 0xBF, b.toNat - 0xC0⟩ := by
  rw [lead]
  rw [if_neg (by omega), if_neg (by omega), if_pos (by omega)]

/-- The first of three bytes bounds the second one, so that no shorter form is
used and no surrogate written. -/
theorem lead_three {b : UInt8} (h : 0xE0 ≤ b.toNat) (h' : b.toNat < 0xF0) :
    lead b = .opens ⟨2, if b.toNat = 0xE0 then 0xA0 else 0x80,
      if b.toNat = 0xED then 0x9F else 0xBF, b.toNat - 0xE0⟩ := by
  rw [lead]
  rw [if_neg (by omega), if_neg (by omega), if_neg (by omega)]
  by_cases h0 : b.toNat = 0xE0
  · simp [h0]
  · by_cases hd : b.toNat = 0xED
    · simp [hd]
    · rw [if_neg h0, if_neg hd, if_pos h', if_neg h0, if_neg hd]

/-- The first of four bytes bounds the second one, so that no shorter form is
used and no number too large. -/
theorem lead_four {b : UInt8} (h : 0xF0 ≤ b.toNat) (h' : b.toNat < 0xF5) :
    lead b = .opens ⟨3, if b.toNat = 0xF0 then 0x90 else 0x80,
      if b.toNat = 0xF4 then 0x8F else 0xBF, b.toNat - 0xF0⟩ := by
  rw [lead]
  rw [if_neg (by omega), if_neg (by omega), if_neg (by omega), if_neg (by omega),
    if_neg (by omega), if_neg (by omega)]
  by_cases h0 : b.toNat = 0xF0
  · simp [h0]
  · by_cases h4 : b.toNat = 0xF4
    · simp [h4]
    · rw [if_neg h0, if_pos (by omega), if_neg h0, if_neg h4]

theorem lead_stray {b : UInt8} (h : 0x80 ≤ b.toNat ∧ b.toNat < 0xC2 ∨ 0xF5 ≤ b.toNat) :
    lead b = .stray := by
  rw [lead]
  rcases h with h | h
  · rw [if_neg (by omega), if_pos (by omega)]
  · rw [if_neg (by omega), if_neg (by omega), if_neg (by omega), if_neg (by omega),
      if_neg (by omega), if_neg (by omega), if_neg (by omega), if_neg (by omega),
      if_neg (by omega)]

/-! ## The bytes behind it -/

theorem scanFrom_last {low high value : Nat} {b : UInt8} (h : low ≤ b.toNat ∧ b.toNat ≤ high)
    (rest : Bytes) : scanFrom (some ⟨1, low, high, value⟩) (b :: rest) =
      some (Char.ofNat (value * 64 + (b.toNat - 0x80))) :: scanFrom none rest := by
  rw [scanFrom, if_pos h]
  rfl

theorem scanFrom_next {needed low high value : Nat} {b : UInt8}
    (h : low ≤ b.toNat ∧ b.toNat ≤ high) (rest : Bytes) :
    scanFrom (some ⟨needed + 2, low, high, value⟩) (b :: rest) =
      scanFrom (some ⟨needed + 1, 0x80, 0xBF, value * 64 + (b.toNat - 0x80)⟩) rest := by
  rw [scanFrom, if_pos h]
  exact if_neg (by simp)

/-- Where an open character does not go on, there is a broken part. -/
theorem scanFrom_some (p : Pending) (bytes : Bytes) :
    none ∈ scanFrom (some p) bytes ∨
      ∃ b rest, bytes = b :: rest ∧ p.low ≤ b.toNat ∧ b.toNat ≤ p.high := by
  cases bytes with
  | nil => exact .inl (by simp [scanFrom])
  | cons b rest =>
      by_cases h : p.low ≤ b.toNat ∧ b.toNat ≤ p.high
      · exact .inr ⟨b, rest, rfl, h⟩
      · refine .inl ?_
        rw [scanFrom, if_neg h]
        exact List.mem_cons_self

/-! ## One character -/

/-- The bytes of a character are read as that character. -/
theorem scanFrom_encodeChar (c : Char) (rest : Bytes) :
    scanFrom none (encodeChar c ++ rest) = some c :: scanFrom none rest := by
  have hc := valid c
  have hback := ofNat_toNat_char c
  unfold encodeChar
  generalize c.toNat = n at hc hback
  simp only []
  have hlow : (UInt8.ofNat (0x80 + n % 64)).toNat = 0x80 + n % 64 := toNat_ofNat (by omega)
  have hmid : (UInt8.ofNat (0x80 + n / 64 % 64)).toNat = 0x80 + n / 64 % 64 :=
    toNat_ofNat (by omega)
  split
  · next h1 =>
      have hb : (UInt8.ofNat n).toNat = n := toNat_ofNat (by omega)
      rw [List.singleton_append, scanFrom, lead_one (by omega), hb, hback]
  · next h1 =>
      split
      · next h2 =>
          have hb : (UInt8.ofNat (0xC0 + n / 64)).toNat = 0xC0 + n / 64 := toNat_ofNat (by omega)
          rw [List.cons_append, List.singleton_append, scanFrom, lead_two (by omega) (by omega), hb]
          simp only []
          rw [scanFrom_last (by omega), hlow,
            show (0xC0 + n / 64 - 0xC0) * 64 + (0x80 + n % 64 - 0x80) = n by omega, hback]
      · next h2 =>
          split
          · next h3 =>
              have hb : (UInt8.ofNat (0xE0 + n / 4096)).toNat = 0xE0 + n / 4096 :=
                toNat_ofNat (by omega)
              simp only [List.cons_append, List.nil_append]
              rw [scanFrom, lead_three (by omega) (by omega), hb]
              simp only []
              rw [scanFrom_next (by constructor <;> split <;> omega), scanFrom_last (by omega), hmid,
                hlow, show ((0xE0 + n / 4096 - 0xE0) * 64 + (0x80 + n / 64 % 64 - 0x80)) * 64 +
                  (0x80 + n % 64 - 0x80) = n by omega, hback]
          · next h3 =>
              have hb : (UInt8.ofNat (0xF0 + n / 262144)).toNat = 0xF0 + n / 262144 :=
                toNat_ofNat (by omega)
              have hhigh : (UInt8.ofNat (0x80 + n / 4096 % 64)).toNat = 0x80 + n / 4096 % 64 :=
                toNat_ofNat (by omega)
              simp only [List.cons_append, List.nil_append]
              rw [scanFrom, lead_four (by omega) (by omega), hb]
              simp only []
              rw [scanFrom_next (by constructor <;> split <;> omega), scanFrom_next (by omega),
                scanFrom_last (by omega), hhigh, hmid, hlow,
                show (((0xF0 + n / 262144 - 0xF0) * 64 + (0x80 + n / 4096 % 64 - 0x80)) * 64 +
                  (0x80 + n / 64 % 64 - 0x80)) * 64 + (0x80 + n % 64 - 0x80) = n by omega, hback]

/-- A byte string that is read as a broken part or begins with a character. -/
def BrokenOrSpelled (bytes : Bytes) : Prop :=
  none ∈ scanFrom none bytes ∨ ∃ c rest, bytes = encodeChar c ++ rest

theorem spelled_two {b : UInt8} {bytes : Bytes} (h : 0xC2 ≤ b.toNat) (h' : b.toNat < 0xE0) :
    BrokenOrSpelled (b :: bytes) := by
  unfold BrokenOrSpelled
  rw [scanFrom, lead_two h h']
  simp only []
  rcases scanFrom_some ⟨1, 0x80, 0xBF, b.toNat - 0xC0⟩ bytes with hn | ⟨b₁, rest, rfl, h₁⟩
  · exact .inl hn
  · simp only [] at h₁
    refine .inr ⟨Char.ofNat ((b.toNat - 0xC0) * 64 + (b₁.toNat - 0x80)), rest, ?_⟩
    rw [encodeChar, toNat_char_ofNat (.inl (by omega))]
    rw [if_neg (by omega), if_pos (by omega)]
    rw [← eq_ofNat (b := b) (by omega), ← eq_ofNat (b := b₁) (by omega)]
    rfl

theorem spelled_three {b : UInt8} {bytes : Bytes} (h : 0xE0 ≤ b.toNat) (h' : b.toNat < 0xF0) :
    BrokenOrSpelled (b :: bytes) := by
  unfold BrokenOrSpelled
  rw [scanFrom, lead_three h h']
  simp only []
  rcases scanFrom_some ⟨2, _, _, b.toNat - 0xE0⟩ bytes with hn | ⟨b₁, rest, rfl, h₁⟩
  · exact .inl hn
  · rw [scanFrom_next h₁]
    rcases scanFrom_some ⟨1, 0x80, 0xBF, _⟩ rest with hn | ⟨b₂, rest, rfl, h₂⟩
    · exact .inl hn
    · -- the bounds of the second byte are what makes the number a character's
      have hlow : b.toNat = 0xE0 → 0xA0 ≤ b₁.toNat := fun h0 => by simpa [h0] using h₁.1
      have hhigh : b.toNat = 0xED → b₁.toNat ≤ 0x9F := fun hd => by simpa [hd] using h₁.2
      have hb₁ : 0x80 ≤ b₁.toNat ∧ b₁.toNat ≤ 0xBF := by
        obtain ⟨ha, hb⟩ := h₁
        simp only [] at ha hb
        split at ha <;> split at hb <;> omega
      clear h₁
      simp only [] at h₂
      refine .inr ⟨Char.ofNat (((b.toNat - 0xE0) * 64 + (b₁.toNat - 0x80)) * 64 +
        (b₂.toNat - 0x80)), rest, ?_⟩
      rw [encodeChar, toNat_char_ofNat (by unfold Nat.isValidChar; omega)]
      rw [if_neg (by omega), if_neg (by omega), if_pos (by omega)]
      rw [← eq_ofNat (b := b) (by omega), ← eq_ofNat (b := b₁) (by omega),
        ← eq_ofNat (b := b₂) (by omega)]
      rfl

theorem spelled_four {b : UInt8} {bytes : Bytes} (h : 0xF0 ≤ b.toNat) (h' : b.toNat < 0xF5) :
    BrokenOrSpelled (b :: bytes) := by
  unfold BrokenOrSpelled
  rw [scanFrom, lead_four h h']
  simp only []
  rcases scanFrom_some ⟨3, _, _, b.toNat - 0xF0⟩ bytes with hn | ⟨b₁, rest, rfl, h₁⟩
  · exact .inl hn
  · rw [scanFrom_next h₁]
    rcases scanFrom_some ⟨2, 0x80, 0xBF, _⟩ rest with hn | ⟨b₂, rest, rfl, h₂⟩
    · exact .inl hn
    · rw [scanFrom_next h₂]
      rcases scanFrom_some ⟨1, 0x80, 0xBF, _⟩ rest with hn | ⟨b₃, rest, rfl, h₃⟩
      · exact .inl hn
      · have hlow : b.toNat = 0xF0 → 0x90 ≤ b₁.toNat := fun h0 => by simpa [h0] using h₁.1
        have hhigh : b.toNat = 0xF4 → b₁.toNat ≤ 0x8F := fun h4 => by simpa [h4] using h₁.2
        have hb₁ : 0x80 ≤ b₁.toNat ∧ b₁.toNat ≤ 0xBF := by
          obtain ⟨ha, hb⟩ := h₁
          simp only [] at ha hb
          split at ha <;> split at hb <;> omega
        clear h₁
        simp only [] at h₂ h₃
        refine .inr ⟨Char.ofNat ((((b.toNat - 0xF0) * 64 + (b₁.toNat - 0x80)) * 64 +
          (b₂.toNat - 0x80)) * 64 + (b₃.toNat - 0x80)), rest, ?_⟩
        rw [encodeChar, toNat_char_ofNat (by unfold Nat.isValidChar; omega)]
        rw [if_neg (by omega), if_neg (by omega), if_neg (by omega)]
        rw [← eq_ofNat (b := b) (by omega), ← eq_ofNat (b := b₁) (by omega),
          ← eq_ofNat (b := b₂) (by omega), ← eq_ofNat (b := b₃) (by omega)]
        rfl

/-- Bytes that are not read as a broken part begin with the bytes of a character. -/
theorem brokenOrSpelled (b : UInt8) (bytes : Bytes) : BrokenOrSpelled (b :: bytes) := by
  have hb := b.toNat_lt
  by_cases h1 : b.toNat < 0x80
  · refine .inr ⟨Char.ofNat b.toNat, bytes, ?_⟩
    rw [encodeChar, toNat_char_ofNat (.inl (by omega))]
    simp only [h1, if_true, UInt8.ofNat_toNat, List.singleton_append]
  · by_cases h2 : b.toNat < 0xC2 ∨ 0xF5 ≤ b.toNat
    · refine .inl ?_
      rw [scanFrom, lead_stray (by omega)]
      exact List.mem_cons_self
    · by_cases h3 : b.toNat < 0xE0
      · exact spelled_two (by omega) h3
      · by_cases h4 : b.toNat < 0xF0
        · exact spelled_three (by omega) h4
        · exact spelled_four (by omega) (by omega)

/-! ## Whole texts -/

theorem scan_encodeChars (text : List Char) : scan (encodeChars text) = text.map some := by
  induction text with
  | nil => rfl
  | cons c text ih =>
      rw [scan] at ih ⊢
      rw [encodeChars, List.flatMap_cons, scanFrom_encodeChar, List.map_cons]
      exact congrArg _ ih

theorem decodeChars?_encodeChars (text : List Char) :
    decodeChars? (encodeChars text) = some text := by
  rw [decodeChars?, scan_encodeChars]
  induction text with
  | nil => rfl
  | cons c text ih => rw [List.map_cons, List.mapM_cons, ih]; rfl

theorem not_broken_of_mapM {items : List (Option Char)} {text : List Char}
    (h : items.mapM id = some text) : items = text.map some := by
  induction items generalizing text with
  | nil => cases h; rfl
  | cons item items ih =>
      rw [List.mapM_cons] at h
      cases item with
      | none => cases h
      | some c =>
          cases hrest : items.mapM id with
          | none => rw [hrest] at h; cases h
          | some rest =>
              rw [hrest] at h
              cases h
              rw [ih hrest]
              rfl

/-- Strict decoding accepts exactly what is written. -/
theorem decodeChars?_eq_some_iff (bytes : Bytes) (text : List Char) :
    decodeChars? bytes = some text ↔ bytes = encodeChars text := by
  refine ⟨fun h => ?_, fun h => h ▸ decodeChars?_encodeChars text⟩
  have hscan : scanFrom none bytes = text.map some := not_broken_of_mapM h
  clear h
  induction text generalizing bytes with
  | nil =>
      cases bytes with
      | nil => rfl
      | cons b bytes =>
          rcases brokenOrSpelled b bytes with hn | ⟨c, rest, hc⟩
          · rw [hscan] at hn; cases hn
          · rw [hc, scanFrom_encodeChar] at hscan; cases hscan
  | cons c text ih =>
      cases bytes with
      | nil => cases hscan
      | cons b bytes =>
          rcases brokenOrSpelled b bytes with hn | ⟨c', rest, hc⟩
          · rw [hscan] at hn
            simp at hn
          · rw [hc, scanFrom_encodeChar, List.map_cons, List.cons.injEq] at hscan
            rw [hc, ih rest hscan.2, Option.some.inj hscan.1]
            rfl

theorem decode?_eq_some_iff (bytes : Bytes) (text : String) :
    decode? bytes = some text ↔ bytes = encode text := by
  unfold decode? encode
  rw [Option.map_eq_some_iff]
  constructor
  · rintro ⟨chars, h, rfl⟩
    rw [(decodeChars?_eq_some_iff _ _).mp h, String.toList_ofList]
  · intro h
    exact ⟨text.toList, (decodeChars?_eq_some_iff _ _).mpr h, String.ofList_toList⟩

/-- Different texts are written differently. -/
theorem encode_injective {a b : String} (h : encode a = encode b) : a = b := by
  have ha := (decode?_eq_some_iff (encode a) a).mpr rfl
  rw [h, (decode?_eq_some_iff (encode b) b).mpr rfl] at ha
  exact (Option.some.inj ha).symm

/-- A character of one byte is in a text just if its byte is in what is written. -/
theorem mem_encodeChars_iff {n : Nat} (h : n < 0x80) (text : List Char) :
    UInt8.ofNat n ∈ encodeChars text ↔ Char.ofNat n ∈ text := by
  have hn : (UInt8.ofNat n).toNat = n := toNat_ofNat (by omega)
  have hchar : (Char.ofNat n).toNat = n := toNat_char_ofNat (.inl (by omega))
  -- the bytes of any longer form are at least 0x80
  have hone (c : Char) : UInt8.ofNat n ∈ encodeChar c ↔ Char.ofNat n = c := by
    have hc := valid c
    have hne {m : Nat} (hm : 0x80 ≤ m) (hm' : m < 256) : UInt8.ofNat n ≠ UInt8.ofNat m := by
      intro heq
      have := congrArg UInt8.toNat heq
      rw [hn, toNat_ofNat hm'] at this
      omega
    have hback : Char.ofNat n = c ↔ n = c.toNat :=
      ⟨fun heq => by rw [← heq, hchar], fun heq => by rw [heq, ofNat_toNat_char]⟩
    rw [hback]
    unfold encodeChar
    simp only []
    split
    · next h1 =>
        rw [List.mem_singleton]
        refine ⟨fun heq => ?_, fun heq => by rw [heq]⟩
        have := congrArg UInt8.toNat heq
        rwa [hn, toNat_ofNat (by omega)] at this
    · next h1 =>
        refine iff_of_false ?_ (by omega)
        split
        · simp only [List.mem_cons, List.not_mem_nil, or_false, not_or]
          exact ⟨hne (by omega) (by omega), hne (by omega) (by omega)⟩
        · split
          · simp only [List.mem_cons, List.not_mem_nil, or_false, not_or]
            exact ⟨hne (by omega) (by omega), hne (by omega) (by omega),
              hne (by omega) (by omega)⟩
          · simp only [List.mem_cons, List.not_mem_nil, or_false, not_or]
            exact ⟨hne (by omega) (by omega), hne (by omega) (by omega),
              hne (by omega) (by omega), hne (by omega) (by omega)⟩
  rw [encodeChars, List.mem_flatMap]
  simp only [hone]
  constructor
  · rintro ⟨c, hc, rfl⟩
    exact hc
  · exact fun hc => ⟨_, hc, rfl⟩

theorem encodeChar_ne_nil (c : Char) : encodeChar c ≠ [] := by
  unfold encodeChar
  simp only []
  split
  · simp
  · split
    · simp
    · split <;> simp

theorem length_le_length_encode (text : String) :
    text.toList.length ≤ (encode text).length := by
  unfold encode
  generalize text.toList = chars
  induction chars with
  | nil => exact Nat.le_refl _
  | cons c chars ih =>
      have := List.length_pos_iff.mpr (encodeChar_ne_nil c)
      rw [encodeChars] at ih ⊢
      rw [List.flatMap_cons, List.length_append, List.length_cons]
      omega

end GoldenFiles.Utf8
