/-!
# Classes of characters

Where a line may be broken depends on characters only through their classes.
The classes are those of the general line breaking algorithm, with quotation
marks and opening brackets told apart further where a rule does so.
-/

namespace GoldenFiles.Text.LineBreak

/-- What a character is when it comes to breaking lines. -/
inductive Class where
  /-- Ends a line wherever it stands. -/
  | mandatory
  | carriageReturn
  | lineFeed
  | nextLine
  | space
  /-- Not seen, but a line may be broken behind it. -/
  | zeroWidthSpace
  /-- Joins the pictures on both of its sides. -/
  | joiner
  /-- Belongs to the character before it. -/
  | mark
  /-- Not seen, and a line is not broken on either side of it. -/
  | wordJoiner
  /-- A blank or a sign that holds its neighbours together. -/
  | glue
  | closing
  | closingRound
  | exclamation
  | separator
  | slash
  | opening
  | wideOpening
  | quotation
  | initialQuotation
  | finalQuotation
  /-- Does not begin a line. -/
  | nonstarter
  | dash
  | contingent
  | breakAfter
  | hyphen
  | breakBefore
  | hebrew
  | inseparable
  | number
  | beforeNumber
  | afterNumber
  | ideograph
  /-- A place kept for pictures that do not exist yet. -/
  | reservedPicture
  | pictureBase
  | pictureModifier
  | leadingJamo
  | vowelJamo
  | trailingJamo
  /-- A Korean syllable without a final consonant. -/
  | openSyllable
  | closedSyllable
  /-- One half of a flag. -/
  | regional
  | aksara
  | aksaraStart
  | aksaraPrebase
  | finalVirama
  | virama
  /-- A letter of a script that is written without blanks between words. -/
  | complex
  | letter
  deriving DecidableEq, Repr

namespace Class

/-- Whether a character of the class is a letter as far as its neighbours go. -/
def isLetter : Class → Bool
  | .letter | .hebrew | .complex => true
  | _ => false

/-- Whether a character of the class is a letter or a digit. -/
def isWordPart (cls : Class) : Bool := cls.isLetter || cls = .number

/-- Whether a character of the class stands by itself, as ideographs do. -/
def isIdeographic : Class → Bool
  | .ideograph | .reservedPicture | .pictureBase | .pictureModifier => true
  | _ => false

/-- Whether a character of the class is a Korean syllable or a part of one. -/
def isKorean : Class → Bool
  | .leadingJamo | .vowelJamo | .trailingJamo | .openSyllable | .closedSyllable => true
  | _ => false

/-- Whether a character of the class is a quotation mark. -/
def isQuotation : Class → Bool
  | .quotation | .initialQuotation | .finalQuotation => true
  | _ => false

/-- Whether a character of the class is an opening bracket. -/
def isOpening : Class → Bool
  | .opening | .wideOpening => true
  | _ => false

/-- Whether a character of the class is a closing bracket. -/
def isClosing : Class → Bool
  | .closing | .closingRound => true
  | _ => false

/-- Whether a character of the class ends a line. -/
def endsLine : Class → Bool
  | .mandatory | .carriageReturn | .lineFeed | .nextLine => true
  | _ => false

/-- Whether a mark behind a character of the class has nothing to belong to.
Marks in a run of complex letters are complex letters themselves. -/
def bearsNoMark (cls : Class) : Bool :=
  cls.endsLine || cls = .space || cls = .zeroWidthSpace || cls = .complex

end Class

end GoldenFiles.Text.LineBreak
