import GoldenFiles.Text.Utf8
import GoldenFiles.Yaml.Quoted

/-!
# Names, tags and directives

A node may be given a name to refer to it by and a tag that says what kind of
value it is. A tag is a handle and a suffix; directives in front of a document
say what a handle stands for. In tags any byte can be written by its number, so
what tags are made of is bytes.
-/

namespace GoldenFiles.Yaml

/-- Whether a name may be followed directly by a character. -/
def mayFollowName (c : Char) : Bool := c ∈ ['?', ':', ',', ']', '\x7d', '%', '@', '\x60']

/-- The name of a node, and what follows it. -/
def nodeName (s : Source) : Option (List Char × Source) :=
  let letters := (s.run isNameChar).text
  let rest := s.after isNameChar
  if letters ≠ [] ∧ (rest.atGap ∨ rest.next?.any mayFollowName) then some (letters, rest) else none

/-- Whether a character may stand in a tag. Where tags are not inside brackets
of their own, the marks of collections end them. -/
def isTagChar (wide : Bool) (c : Char) : Bool :=
  isNameChar c || ";/?:@&=+$.%!~*'()".toList.contains c || (wide && c ∈ [',', '[', ']'])

/-- How many bytes the character takes that begins with a byte. -/
def octets? (b : Nat) : Option Nat :=
  if b < 0x80 then some 1
  else if 0xC0 ≤ b ∧ b < 0xE0 then some 2
  else if 0xE0 ≤ b ∧ b < 0xF0 then some 3
  else if 0xF0 ≤ b ∧ b < 0xF8 then some 4
  else none

/-- The text of a tag, and what follows it. So many bytes are missing from a
character that is written by the numbers of its bytes. -/
def tagText (wide : Bool) : (missing : Nat) → Source → Option (Bytes × Source)
  | 0, [] => some ([], [])
  | _ + 1, [] => none
  | missing, c :: rest =>
      if c.char = '%' then
        match rest with
        | high :: low :: rest =>
            match hexDigit? high.char, hexDigit? low.char with
            | some high, some low =>
                let b := high * 16 + low
                let missing? := match missing with
                  | 0 => (octets? b).map (· - 1)
                  | missing + 1 => if 0x80 ≤ b ∧ b < 0xC0 then some missing else none
                missing?.bind fun missing =>
                  (tagText wide missing rest).map fun (bytes, left) => (.ofNat b :: bytes, left)
            | _, _ => none
        | _ => none
      else if missing ≠ 0 then none
      else if isTagChar wide c.char then
        (tagText wide 0 rest).map fun (bytes, left) => (Utf8.encodeChar c.char ++ bytes, left)
      else some ([], c :: rest)

/-- A tag as it is written. -/
structure WrittenTag where
  /-- It stands for what a directive says; an empty one stands for nothing. -/
  handle : List Char
  suffix : Bytes
  deriving DecidableEq, Repr

/-- The tag whose first mark has been read, and what follows it. -/
def writtenTag (s : Source) : Option (WrittenTag × Source) :=
  if s.next? = some '<' then
    match tagText true 0 s.skip with
    | some (b :: bytes, rest) =>
        if rest.next? = some '>' then some (⟨[], b :: bytes⟩, rest.skip) else none
    | _ => none
  else
    let letters := (s.run isNameChar).text
    let rest := s.after isNameChar
    if rest.next? = some '!' then
      match tagText false 0 rest.skip with
      | some (b :: bytes, rest) => some (⟨'!' :: letters ++ ['!'], b :: bytes⟩, rest)
      | _ => none
    else
      match tagText false 0 s with
      | some ([], rest) => some (⟨[], Utf8.encode "!"⟩, rest)
      | some (bytes, rest) => some (⟨['!'], bytes⟩, rest)
      | none => none

/-- A tag that ends where a tag may end. -/
def tag (flow : Bool) (s : Source) : Option (WrittenTag × Source) :=
  match writtenTag s with
  | none => none
  | some (written, rest) =>
      if rest.atGap ∨ (flow ∧ rest.next? = some ',') then some (written, rest) else none

/-- A directive. -/
inductive Directive where
  | version (major minor : Nat)
  | handle (handle : List Char) (meaning : Bytes)
  deriving DecidableEq, Repr

/-- A number of at most nine digits, and what follows it. -/
def versionNumber (s : Source) : Option (Nat × Source) :=
  let digits := (s.run Char.isDigit).text
  if 9 < digits.length then none
  else (Digits.number? digits).map fun n => (n, s.after Char.isDigit)

/-- The version that a directive asks for. -/
def version (s : Source) : Option (Directive × Source) :=
  match versionNumber s with
  | none => none
  | some (major, rest) =>
      if rest.next? ≠ some '.' then none
      else (versionNumber rest.skip).map fun (minor, rest) => (.version major minor, rest)

/-- The handle that a directive explains, and its meaning. -/
def handleMeaning (s : Source) : Option (Directive × Source) :=
  if s.next? ≠ some '!' then none
  else
    let letters := (s.skip.run isNameChar).text
    let rest := s.skip.after isNameChar
    let closed := rest.next? = some '!'
    let rest := if closed then rest.skip else rest
    if !closed ∧ letters ≠ [] then none
    else if !rest.next?.any isBlank then none
    else
      match tagText true 0 (rest.after isBlank) with
      | some (b :: bytes, rest) =>
          let handle := '!' :: letters ++ if closed then ['!'] else []
          if rest.atGap then some (.handle handle (b :: bytes), rest) else none
      | _ => none

/-- The directive whose mark has been read, and the line after it. -/
def directive (s : Source) : Option (Directive × Source) :=
  let name := (s.run isNameChar).text
  let rest := s.after isNameChar
  if !rest.atGap then none
  else
    let found :=
      if name = "YAML".toList then version (rest.after isBlank)
      else if name = "TAG".toList then handleMeaning (rest.after isBlank)
      else none
    match found with
    | none => none
    | some (d, rest) => rest.lineEnd?.map fun rest => (d, rest)

end GoldenFiles.Yaml
