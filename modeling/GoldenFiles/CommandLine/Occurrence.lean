import GoldenFiles.CommandLine.Usage

/-!
# Occurrences of options

The words of a command line are first cut into occurrences of options; whether
their values are any good is asked later. A parameter that has no value in its
own word takes the next word, unless that is an option or the double dash; only
one parameter, whose values are themselves words for a command line, takes
any word.

A word that belongs to no option ends the reading. Then a parameter that still
waited for its value, or had just been given one, is not looked at any more,
so the error that ended the reading is the one that shows.
-/

namespace GoldenFiles.CommandLine

/-- A use of an option. -/
inductive Occurrence where
  | switch (s : Switch)
  /-- The value stands in the same word. -/
  | attached (p : Parameter) (value : List Char)
  /-- The value is the next word, if there is one to take. -/
  | separate (p : Parameter) (value : Option (List Char))
  deriving DecidableEq, Repr

/-- Whether an occurrence can be looked at as soon as it has been read. -/
def Occurrence.isSettled : Occurrence → Bool
  | switch _ | attached .. => true
  | separate .. => false

/-- What words are found to say. -/
structure Said where
  occurrences : List Occurrence := []
  /-- Why the reading ended early. -/
  error : Option UsageError := none
  deriving DecidableEq, Repr

namespace Said

/-- One more occurrence in front. -/
def cons (o : Occurrence) (said : Said) : Said :=
  { said with occurrences := o :: said.occurrences }

/-- An error, before anything is said. -/
def failed (e : UsageError) : Said := { error := some e }

/-- The occurrences that are looked at. If the reading ended early, one that is
not settled is not looked at. -/
def judged (said : Said) : List Occurrence :=
  if said.error.isSome ∧ said.occurrences.getLast?.any (!·.isSettled) then
    said.occurrences.dropLast
  else said.occurrences

end Said

/-- What a word looks like. -/
inductive Shape where
  /-- Two dashes and no more. -/
  | separator
  /-- Two dashes, a name, and perhaps a value after an equals sign. -/
  | long (name : List Char) (value : Option (List Char))
  /-- A dash and letters. -/
  | short (letters : List Char)
  | plain
  deriving DecidableEq, Repr

/-- The part before the first equals sign and, if there is one, the part after it. -/
def cutAtEquals : List Char → List Char × Option (List Char)
  | [] => ([], none)
  | '=' :: rest => ([], some rest)
  | c :: rest => ((c :: (cutAtEquals rest).1), (cutAtEquals rest).2)

/-- What a word looks like. A dash alone is a plain word. -/
def shape : List Char → Shape
  | ['-', '-'] => .separator
  | '-' :: '-' :: rest => .long (cutAtEquals rest).1 (cutAtEquals rest).2
  | '-' :: c :: rest => .short (c :: rest)
  | _ => .plain

/-- What letters after a dash are found to say. -/
structure Letters where
  occurrences : List Occurrence := []
  /-- The last letter is a parameter that takes the next word. -/
  open? : Option Parameter := none
  error : Option UsageError := none
  deriving DecidableEq, Repr

/-- Reads letters after a dash. What follows the letter of a parameter is its
value, with or without an equals sign. -/
def letters : List Char → Letters
  | [] => {}
  | c :: rest =>
      match Flag.ofShort? c with
      | none => { error := some .unknownArgument }
      | some (.switch s) =>
          let more := letters rest
          { more with occurrences := .switch s :: more.occurrences }
      | some (.parameter p) =>
          match rest with
          | [] => { open? := some p }
          | '=' :: value => { occurrences := [.attached p value] }
          | value => { occurrences := [.attached p value] }

/-- Whether a parameter takes a word as its value. -/
def takes (p : Parameter) (word : List Char) : Bool := p = .arg ∨ shape word = .plain

/-- Reads the words of a command line, the first of which may be the value of a
parameter that waits for one. -/
def said (waiting : Option Parameter) : List (List Char) → Said
  | [] =>
      match waiting with
      | none => {}
      | some p => ({} : Said).cons (.separate p none)
  | word :: words =>
      match waiting.filter (takes · word) with
      | some p => (said none words).cons (.separate p (some word))
      | none =>
          let rest :=
            match shape word with
            | .plain => Said.failed .unknownArgument
            | .separator => if words = [] then {} else Said.failed .unknownArgument
            | .long name value =>
                match Flag.ofLong? name, value with
                | none, _ => Said.failed .unknownArgument
                | some (.switch _), some _ => Said.failed .tooManyValues
                | some (.switch s), none => (said none words).cons (.switch s)
                | some (.parameter p), some value => (said none words).cons (.attached p value)
                | some (.parameter p), none => said (some p) words
            | .short cs =>
                let found := letters cs
                let rest := match found.error with
                  | some e => Said.failed e
                  | none => said found.open? words
                { rest with occurrences := found.occurrences ++ rest.occurrences }
          match waiting with
          | none => rest
          | some p => rest.cons (.separate p none)

end GoldenFiles.CommandLine
