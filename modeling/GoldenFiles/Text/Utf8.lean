/-!
# Text as bytes, and bytes as text

A character is written as one to four bytes. Reading goes byte by byte with at
most one character open: a first byte says how many continuation bytes follow
and between which bounds the next one lies, and those bounds are what rules out
overlong forms, surrogates and code points that are too large. A byte that
cannot go on ends the open character and is looked at again from the start, so
a broken character is exactly one maximal part that no well-formed text begins
with. Everything else is read off `scan`: strict decoding refuses a broken
part, lossy decoding shows a replacement character for it.
-/

namespace GoldenFiles

/-- The content of a file, the text of a path: any bytes. -/
abbrev Bytes := List UInt8

namespace Utf8

/-- The bytes of one character. -/
def encodeChar (c : Char) : Bytes :=
  let n := c.toNat
  if n < 0x80 then [.ofNat n]
  else if n < 0x800 then [.ofNat (0xC0 + n / 64), .ofNat (0x80 + n % 64)]
  else if n < 0x10000 then
    [.ofNat (0xE0 + n / 4096), .ofNat (0x80 + n / 64 % 64), .ofNat (0x80 + n % 64)]
  else
    [.ofNat (0xF0 + n / 262144), .ofNat (0x80 + n / 4096 % 64),
      .ofNat (0x80 + n / 64 % 64), .ofNat (0x80 + n % 64)]

/-- The bytes of a text. -/
def encodeChars (text : List Char) : Bytes := text.flatMap encodeChar

/-- The bytes of a string. -/
def encode (text : String) : Bytes := encodeChars text.toList

/-- A character that has begun: how many bytes it still needs, the bounds of
the next one, and the bits read so far. -/
structure Pending where
  needed : Nat
  low : Nat
  high : Nat
  value : Nat
  deriving DecidableEq, Repr

/-- What a byte means where no character is open. -/
inductive Lead where
  | whole (c : Char)
  | opens (p : Pending)
  | stray
  deriving DecidableEq, Repr

/-- The meaning of a first byte. -/
def lead (b : UInt8) : Lead :=
  let n := b.toNat
  if n < 0x80 then .whole (Char.ofNat n)
  else if n < 0xC2 then .stray
  else if n < 0xE0 then .opens ⟨1, 0x80, 0xBF, n - 0xC0⟩
  else if n = 0xE0 then .opens ⟨2, 0xA0, 0xBF, 0⟩
  else if n = 0xED then .opens ⟨2, 0x80, 0x9F, n - 0xE0⟩
  else if n < 0xF0 then .opens ⟨2, 0x80, 0xBF, n - 0xE0⟩
  else if n = 0xF0 then .opens ⟨3, 0x90, 0xBF, 0⟩
  else if n < 0xF4 then .opens ⟨3, 0x80, 0xBF, n - 0xF0⟩
  else if n = 0xF4 then .opens ⟨3, 0x80, 0x8F, 4⟩
  else .stray

/-- The characters of a byte string, read with `open?` already begun; `none`
stands for a maximal part that is no character. -/
def scanFrom : Option Pending → Bytes → List (Option Char)
  | none, [] => []
  | some _, [] => [none]
  | none, b :: rest =>
      match lead b with
      | .whole c => some c :: scanFrom none rest
      | .opens p => scanFrom (some p) rest
      | .stray => none :: scanFrom none rest
  | some p, b :: rest =>
      if p.low ≤ b.toNat ∧ b.toNat ≤ p.high then
        let value := p.value * 64 + (b.toNat - 0x80)
        if p.needed ≤ 1 then some (Char.ofNat value) :: scanFrom none rest
        else scanFrom (some ⟨p.needed - 1, 0x80, 0xBF, value⟩) rest
      else
        none ::
          match lead b with
          | .whole c => some c :: scanFrom none rest
          | .opens q => scanFrom (some q) rest
          | .stray => none :: scanFrom none rest

/-- The characters of a byte string, broken parts marked. -/
def scan (bytes : Bytes) : List (Option Char) := scanFrom none bytes

/-- The text of well-formed bytes. -/
def decodeChars? (bytes : Bytes) : Option (List Char) := (scan bytes).mapM id

/-- The text of well-formed bytes, as a string. -/
def decode? (bytes : Bytes) : Option String := (decodeChars? bytes).map String.ofList

/-- The character shown for a broken part. -/
def replacement : Char := '\uFFFD'

/-- The text of any bytes, each broken part replaced by one character. -/
def decodeLossyChars (bytes : Bytes) : List Char := (scan bytes).map (·.getD replacement)

/-- The text of any bytes, as a string. -/
def decodeLossy (bytes : Bytes) : String := String.ofList (decodeLossyChars bytes)

end GoldenFiles.Utf8
