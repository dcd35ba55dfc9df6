import GoldenFiles.Text.Alphanumeric
import GoldenFiles.Text.Columns
import GoldenFiles.Text.LineBreak.Rule

/-!
# Filling lines

A text is cut into fragments where a line may be broken, and as many fragments
as fit are put on every line. Spaces at a break are dropped. Control sequences
are not seen by the rules for breaking lines and go with the fragment behind
them. A hyphen ends a fragment only between letters or digits, whatever the
rules say. A fragment that is wider than a line is cut.
-/

namespace GoldenFiles.Wrapping

open Text

/-- Whether a character ends a fragment only by a rule of its own. -/
def isHyphen (c : Char) : Bool := c = '-' || c = '\u00AD'

/-- A text cut behind the characters that allow it. `breaks` has one value for
every shown character, and `current` is the part that has begun, last character
first. -/
def partsFrom (current : List Char) : List (Char × Bool) → List Bool → List (List Char)
  | [], _ => [current.reverse]
  | (c, true) :: rest, mayBreak :: breaks =>
      if mayBreak && !isHyphen c then (c :: current).reverse :: partsFrom [] rest breaks
      else partsFrom (c :: current) rest breaks
  | (c, _) :: rest, breaks => partsFrom (c :: current) rest breaks

/-- The last two parts as one. -/
def joinLast : List (List Char) → List (List Char)
  | [] => []
  | [part] => [part]
  | [part, last] => [part ++ last]
  | part :: parts => part :: joinLast parts

/-- The parts of a text between which a line may be broken. The end of the text
is a break that starts no part, so the last two parts are one. A text that
ends in a hyphen has no break at its end and loses the one before instead. -/
def parts (text : List Char) : List (List Char) :=
  (joinLast (partsFrom [] (marked text) (LineBreak.breaks (shown text)))).filter (· ≠ [])

/-- A word cut behind the hyphens in it. `last?` is the character before, and
`current` is the piece that has begun, last character first. -/
def piecesFrom (last? : Option Char) (current : List Char) : List Char → List (List Char)
  | [] => [current.reverse]
  | c :: rest =>
      if c = '-' ∧ last?.any isAlphanumeric ∧ rest.head?.any isAlphanumeric then
        (c :: current).reverse :: piecesFrom (some c) [] rest
      else piecesFrom (some c) (c :: current) rest

/-- A part of a line that is not broken, and the spaces behind it. -/
structure Fragment where
  text : List Char
  spaces : List Char := []
  deriving DecidableEq, Repr

namespace Fragment

/-- The width of a fragment without its spaces. -/
def width (f : Fragment) : Nat := Text.width f.text

/-- Pieces as fragments, the last one with the spaces behind it. -/
def ofPieces (pieces : List (List Char)) (spaces : List Char) : List Fragment :=
  pieces.dropLast.map (⟨·, []⟩) ++ (pieces.getLast?.map (⟨·, spaces⟩)).toList

/-- The fragments of a part. -/
def ofPart (part : List Char) : List Fragment :=
  let word := (part.reverse.dropWhile (· = ' ')).reverse
  ofPieces (piecesFrom none [] word) (part.drop word.length)

/-- A text cut into pieces of at most so many columns. `used` columns are filled
by `current`, last character first. -/
def cutFrom (limit used : Nat) (current : List Char) : List (Char × Bool) → List (List Char)
  | [] => if current = [] then [] else [current.reverse]
  | (c, false) :: rest => cutFrom limit used (c :: current) rest
  | (c, true) :: rest =>
      if 0 < used ∧ limit < used + columns c then
        current.reverse :: cutFrom limit (columns c) [c] rest
      else cutFrom limit (used + columns c) (c :: current) rest

/-- The pieces of a fragment that fit on a line. -/
def cut (limit : Nat) (f : Fragment) : List Fragment :=
  if f.width ≤ limit then [f] else ofPieces (cutFrom limit 0 [] (marked f.text)) f.spaces

end Fragment

/-- The fragments of a text. -/
def fragments (text : List Char) : List Fragment := (parts text).flatMap Fragment.ofPart

/-- Puts fragments on lines, as many as fit on each. `used` columns of the
first line are filled by `current`, last fragment first. -/
def fillFrom (limit used : Nat) (current : List Fragment) :
    List Fragment → List (List Fragment)
  | [] => [current.reverse]
  | f :: rest =>
      if limit < used + f.width ∧ current ≠ [] then
        current.reverse :: fillFrom limit (f.width + f.spaces.length) [f] rest
      else fillFrom limit (used + f.width + f.spaces.length) (f :: current) rest

/-- The text of a line, without the spaces at its end. -/
def lineText : List Fragment → List Char
  | [] => []
  | [f] => f.text
  | f :: rest => f.text ++ f.spaces ++ lineText rest

/-- The lines of a text without line feeds, each at most so many columns wide. -/
def wrap (limit : Nat) (text : List Char) : List (List Char) :=
  (fillFrom limit 0 [] ((fragments text).flatMap (·.cut limit))).map lineText

end GoldenFiles.Wrapping
