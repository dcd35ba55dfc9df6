import GoldenFiles.Text.Separated
import GoldenFiles.Text.Utf8

/-!
# The lines of a content

Two outputs are compared as sequences of lines, and what counts as a line is
the whole of the tolerance this library grants: a line ends in a line feed,
which the last one may lack, and one carriage return before it does not count.
Nothing else is forgiven. A blank line is a line, also at the end, and an empty
content has no line at all.
-/

namespace GoldenFiles.Content

/-- The byte that ends a line. -/
def lineFeed : UInt8 := 10

/-- The byte that may stand before a line feed without counting. -/
def carriageReturn : UInt8 := 13

/-- The lines of a content, without their ends. -/
def lines (content : Bytes) : List Bytes :=
  if content = [] then []
  else
    (Separated.split lineFeed (Separated.dropFinal lineFeed content)).map
      (Separated.dropFinal carriageReturn)

/-- The lines of a content as text, for a reader's eye: what is not text shows
as a replacement character. -/
def displayLines (content : Bytes) : List (List Char) :=
  (lines content).map Utf8.decodeLossyChars

/-- The displayed lines as one text. -/
def displayText (content : Bytes) : List Char :=
  Separated.join '\n' (displayLines content)

@[simp] theorem lines_nil : lines [] = [] := rfl

@[simp] theorem lines_lineFeed : lines [lineFeed] = [[]] := by decide

end GoldenFiles.Content
