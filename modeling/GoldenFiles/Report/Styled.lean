/-!
# Styled text on two streams

A report is a list of pieces in the order in which they are written, each on
one of two streams. A piece is text, or a change of style, or the return to
plain style. Whether styles show is a question of rendering alone: without
colour a change of style writes nothing, so the plain report is the coloured
one with the escape sequences left out.
-/

namespace GoldenFiles

/-- A colour. -/
inductive Color where
  | red
  | green
  | yellow
  deriving DecidableEq, Repr

/-- The digits that select a colour. -/
def Color.selector : Color → String
  | red => "31"
  | green => "32"
  | yellow => "33"

/-- What a report is made of. -/
inductive Piece where
  | text (s : String)
  | style (color : Option Color) (bold : Bool)
  | plain
  deriving DecidableEq, Repr

namespace Piece

/-- An escape sequence. -/
def escape (selector : String) : String := "\x1b[" ++ selector ++ "m"

/-- What a piece writes. A style starts from plain text. -/
def render (colored : Bool) : Piece → String
  | text s => s
  | style color bold =>
      if colored then
        escape "0" ++ (if bold then escape "1" else "") ++
          (color.map (escape ·.selector)).getD ""
      else ""
  | plain => if colored then escape "0" else ""

end Piece

/-- Where a piece is written. -/
inductive Stream where
  | out
  | err
  deriving DecidableEq, Repr

/-- A report in the order in which it is written. -/
abbrev Styled := List (Stream × Piece)

namespace Styled

/-- The pieces on one stream. -/
def on (stream : Stream) (report : Styled) : List Piece :=
  report.filterMap fun (s, piece) => if s = stream then some piece else none

/-- What a report writes to one stream. -/
def render (stream : Stream) (colored : Bool) (report : Styled) : String :=
  String.join ((report.on stream).map (Piece.render colored))

end Styled

end GoldenFiles
