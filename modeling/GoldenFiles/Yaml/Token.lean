import GoldenFiles.Yaml.Block
import GoldenFiles.Yaml.Plain
import GoldenFiles.Yaml.Property

/-!
# Tokens

A document is cut into tokens: scalars, the marks that structure collections,
and marks for the beginning and end of block collections, which stand nowhere
in the text and are read off the columns.

A key is known to be one only at the colon behind it. So wherever a key could
begin, the place is remembered as a candidate, and at the colon the mark for the
key, with that for a mapping if one begins here, is put in at that place. A
candidate lasts to the end of its line and for 1024 characters; inside brackets
and braces each level has its own. Where only a key can stand, losing the
candidate is an error.
-/

namespace GoldenFiles.Yaml

/-- How a scalar is written. -/
inductive Style where
  | plain
  | singleQuoted
  | doubleQuoted
  | literal
  | folded
  deriving DecidableEq, Repr

/-- A piece of a document. -/
inductive Token where
  | directive (d : Directive)
  | documentStart
  | documentEnd
  | blockSequence
  | blockMapping
  | blockEnd
  | flowSequence
  | flowSequenceEnd
  | flowMapping
  | flowMappingEnd
  /-- The dash in front of an item. -/
  | item
  /-- The comma between two entries. -/
  | comma
  | key
  | value
  | alias (name : List Char)
  | anchor (name : List Char)
  | tag (written : WrittenTag)
  | scalar (style : Style) (text : List Char)
  deriving DecidableEq, Repr

/-- A place where a key may have begun. -/
structure Candidate where
  /-- The number of tokens before it. -/
  before : Nat
  line : Nat
  column : Nat
  /-- Whether nothing but a key can stand here. -/
  required : Bool
  deriving DecidableEq, Repr

/-- Whether a candidate is still one at a later place. -/
def Candidate.lasts (k : Candidate) (here : Located) : Bool :=
  k.line = here.line && here.column ≤ k.column + 1024

/-- What has been read of a document. -/
structure Lexer where
  /-- The tokens, newest first. -/
  tokens : List Token := []
  /-- The columns of the block collections that are open, innermost first. -/
  indents : List Nat := []
  candidate : Option Candidate := none
  /-- The candidates around the brackets and braces that are open, innermost
  first. -/
  outer : List (Option Candidate) := []
  /-- Whether a key may begin here. -/
  mayBeKey : Bool := true
  deriving DecidableEq, Repr

namespace Lexer

/-- Whether brackets or braces are open. -/
def inFlow (x : Lexer) : Bool := !x.outer.isEmpty

/-- One more token. -/
def push (x : Lexer) (t : Token) : Lexer := { x with tokens := t :: x.tokens }

/-- Gives up the candidate, unless it is required. -/
def dropCandidate (x : Lexer) : Option Lexer :=
  if x.candidate.any Candidate.required then none else some { x with candidate := none }

/-- Gives up the candidates that do not last to a place. -/
def expire (x : Lexer) (here : Located) : Option Lexer :=
  let lost (k : Candidate) : Bool := !k.lasts here
  if (x.candidate :: x.outer).any fun k => k.any fun k => lost k && k.required then none
  else
    some { x with
      candidate := x.candidate.filter (·.lasts here)
      outer := x.outer.map (·.filter (·.lasts here)) }

/-- Makes a place the candidate, if a key may begin there. -/
def offer (x : Lexer) (here : Located) : Option Lexer :=
  if x.mayBeKey then
    x.dropCandidate.map fun x =>
      { x with
        candidate := some
          { before := x.tokens.length
            line := here.line
            column := here.column
            required := !x.inFlow && x.indents.head? = some here.column } }
  else some x

/-- Whether a block collection begins at a column. -/
def opensAt (x : Lexer) (column : Nat) : Bool := !x.inFlow && x.indents.head?.all (· < column)

/-- Begins a block collection at a column, if none is open there. -/
def openBlock (x : Lexer) (column : Nat) (t : Token) : Lexer :=
  if x.opensAt column then { x.push t with indents := column :: x.indents } else x

/-- Ends the block collections that are open at columns that pass a test. -/
def closeBlocks (x : Lexer) (p : Nat → Bool) : Lexer :=
  if x.inFlow then x
  else
    { x with
      tokens := (x.indents.takeWhile p).map (fun _ => .blockEnd) ++ x.tokens
      indents := x.indents.dropWhile p }

/-- Puts the mark for a key in at the place of a candidate. -/
def insertKey (x : Lexer) (k : Candidate) : Lexer :=
  let newer := x.tokens.length - k.before
  let opens := x.opensAt k.column
  { x with
    tokens := x.tokens.take newer ++
      .key :: (if opens then [.blockMapping] else []) ++ x.tokens.drop newer
    indents := if opens then k.column :: x.indents else x.indents
    candidate := none }

/-- A mark that stands at the start of a line and belongs to no node. -/
def margin (x : Lexer) : Option Lexer :=
  (x.closeBlocks fun _ => true).dropCandidate.map fun x => { x with mayBeKey := false }

/-- The beginning of a collection in brackets or braces. -/
def openFlow (x : Lexer) (here : Located) (t : Token) : Option Lexer :=
  (x.offer here).map fun x =>
    { x.push t with outer := x.candidate :: x.outer, candidate := none, mayBeKey := true }

/-- The end of a collection in brackets or braces. -/
def closeFlow (x : Lexer) (t : Token) : Option Lexer :=
  x.dropCandidate.map fun x =>
    { x.push t with
      candidate := x.outer.headD none
      outer := x.outer.tail
      mayBeKey := false }

/-- The dash in front of an item. -/
def item (x : Lexer) (here : Located) : Option Lexer :=
  if !x.inFlow ∧ !x.mayBeKey then none
  else
    (x.openBlock here.column .blockSequence).dropCandidate.map fun x =>
      { x.push .item with mayBeKey := true }

/-- The mark in front of a key. -/
def explicitKey (x : Lexer) (here : Located) : Option Lexer :=
  if !x.inFlow ∧ !x.mayBeKey then none
  else
    (x.openBlock here.column .blockMapping).dropCandidate.map fun x =>
      { x.push .key with mayBeKey := !x.inFlow }

/-- The colon in front of a value. -/
def value (x : Lexer) (here : Located) : Option Lexer :=
  match x.candidate with
  | some k => some { (x.insertKey k).push .value with mayBeKey := false }
  | none =>
      if !x.inFlow ∧ !x.mayBeKey then none
      else
        some { (x.openBlock here.column .blockMapping).push .value with mayBeKey := !x.inFlow }

/-- A token that is a node or belongs to one, and that may begin a key. -/
def node (x : Lexer) (here : Located) (read : Option (Token × Source)) :
    Option (Lexer × Source) :=
  match x.offer here, read with
  | some x, some (t, rest) => some ({ x.push t with mayBeKey := false }, rest)
  | _, _ => none

/-- A plain scalar. -/
def plainScalar (x : Lexer) (here : Located) (s : Source) : Option (Lexer × Source) :=
  match x.offer here, plain x.inFlow (x.indents.head?.elim 0 (· + 1)) s with
  | some x, some p => some ({ x.push (.scalar .plain p.text) with mayBeKey := p.endsLine }, p.rest)
  | _, _ => none

/-- A block scalar. -/
def block (x : Lexer) (isFolded : Bool) (s : Source) : Option (Lexer × Source) :=
  match x.dropCandidate, blockScalar isFolded x.indents.head? s with
  | some x, some (text, rest) =>
      let style := if isFolded then Style.folded else Style.literal
      some ({ x.push (.scalar style text) with mayBeKey := true }, rest)
  | _, _ => none

/-- Reads the token that begins with a character. -/
def token (x : Lexer) (c : Located) (rest : Source) : Option (Lexer × Source) :=
  let s : Source := c :: rest
  let isMark := x.inFlow || Source.atGap rest
  let single (x : Option Lexer) : Option (Lexer × Source) := x.map fun x => (x, rest)
  if c.column = 0 ∧ c.char = '%' then
    match x.margin, directive rest with
    | some x, some (d, rest) => some (x.push (.directive d), rest)
    | _, _ => none
  else if s.atTriple '-' then x.margin.map fun x => (x.push .documentStart, List.drop 3 s)
  else if s.atTriple '.' then x.margin.map fun x => (x.push .documentEnd, List.drop 3 s)
  else
    match c.char with
    | '[' => single (x.openFlow c .flowSequence)
    | '\x7b' => single (x.openFlow c .flowMapping)
    | ']' => single (x.closeFlow .flowSequenceEnd)
    | '\x7d' => single (x.closeFlow .flowMappingEnd)
    | ',' => single (x.dropCandidate.map fun x => { x.push .comma with mayBeKey := true })
    | '-' => if Source.atGap rest then single (x.item c) else x.plainScalar c s
    | '?' => if isMark then single (x.explicitKey c) else x.plainScalar c s
    | ':' => if isMark then single (x.value c) else x.plainScalar c s
    | '*' => x.node c ((nodeName rest).map fun (name, rest) => (.alias name, rest))
    | '&' => x.node c ((nodeName rest).map fun (name, rest) => (.anchor name, rest))
    | '!' => x.node c ((tag x.inFlow rest).map fun (t, rest) => (.tag t, rest))
    | '|' => if x.inFlow then none else x.block false rest
    | '>' => if x.inFlow then none else x.block true rest
    | '\x27' => x.node c ((singleQuoted {} rest).map fun (text, rest) =>
        (.scalar .singleQuoted text, rest))
    | '\x22' => x.node c ((doubleQuoted (.text {}) rest).map fun (text, rest) =>
        (.scalar .doubleQuoted text, rest))
    | '\t' | '%' | '@' | '\x60' => none
    | _ => x.plainScalar c s

/-- Ends the document. -/
def finish (x : Lexer) : Option (List Token) := x.margin.map (·.tokens.reverse)

end Lexer

/-- Skips blanks, comments and line breaks. A key may begin on a new line of a
block; where one may begin, a tab is no blank. -/
def toToken (flow : Bool) : (mayBeKey comment : Bool) → Source → Bool × Source
  | mayBeKey, _, [] => (mayBeKey, [])
  | mayBeKey, comment, c :: rest =>
      if isBreak c.char then toToken flow (mayBeKey || !flow) false rest
      else if comment || c.char = '#' then toToken flow mayBeKey true rest
      else if c.char = ' ' || (c.char = '\t' && (flow || !mayBeKey)) ||
          (c.char = byteOrderMark && c.column = 0) then
        toToken flow mayBeKey false rest
      else (mayBeKey, c :: rest)

namespace Lexer

/-- The tokens of a text, at most `fuel` of them still to be read. -/
def run : (fuel : Nat) → Lexer → Source → Option (List Token)
  | fuel, x, s =>
      let (mayBeKey, s) := toToken x.inFlow x.mayBeKey false s
      let x := { x with mayBeKey := mayBeKey }
      match fuel, s with
      | _, [] => x.finish
      | 0, _ :: _ => none
      | fuel + 1, c :: rest =>
          match (x.expire c).bind fun x => (x.closeBlocks (c.column < ·)).token c rest with
          | none => none
          | some (x, rest) => run fuel x rest

end Lexer

/-- The tokens of a text. Every token takes a character, so there are no more
of them than characters. -/
def tokens (text : List Char) : Option (List Token) :=
  if text.all isAllowed then
    let s := locate (normalized text) 0 0
    Lexer.run s.length {} s
  else none

end GoldenFiles.Yaml
