import GoldenFiles.Text.LineBreak.Table

/-!
# Where a line may be broken

A line is broken between clusters, a cluster being a character with the marks on
it. Whether it may be broken at a place is settled by rules that are asked in
order: the first one that says anything about the place decides, and where none
says anything the line may be broken. Most rules look at the two clusters that
meet at the place. Some look past blanks, at what stood before them, and a few
at what comes after the next cluster.

Letters of scripts without blanks between words are kept together as long as the
script stays the same, since finding the words takes a dictionary; behind such a
run the line may always be broken.
-/

namespace GoldenFiles.Text.LineBreak

/-- A script that is written without blanks between words. -/
inductive Script where
  | thai
  | lao
  | myanmar
  | khmer
  deriving DecidableEq, Repr

/-- The name of a script. -/
def Script.name : Script → String
  | .thai => "Thai"
  | .lao => "Lao"
  | .myanmar => "Myanmar"
  | .khmer => "Khmer"

/-- The script of a complex letter, if it is one of those that have a name here. -/
def scriptOf? (c : Char) : Option Script :=
  let n := c.toNat
  if 0xE01 ≤ n ∧ n ≤ 0xE7F then some .thai
  else if 0xE80 ≤ n ∧ n ≤ 0xEFF then some .lao
  else if (0x1000 ≤ n ∧ n ≤ 0x109F) ∨ (0xA9E0 ≤ n ∧ n ≤ 0xA9FF) ∨ (0xAA60 ≤ n ∧ n ≤ 0xAA7F) then
    some .myanmar
  else if 0x1780 ≤ n ∧ n ≤ 0x17FF then some .khmer
  else none

/-! ## Clusters -/

/-- A character with the marks on it. -/
structure Cluster where
  char : Char
  cls : Class
  /-- How many marks there are. -/
  marks : Nat := 0
  /-- Whether the last character is a joiner. -/
  joins : Bool := false
  deriving DecidableEq, Repr

namespace Cluster

/-- Whether the cluster shows where a mark would go. -/
def isDottedCircle (k : Cluster) : Bool := k.char = '◌'

/-- Whether the cluster can bear a virama. -/
def bearsVirama (k : Cluster) : Bool :=
  k.cls = .aksara || k.cls = .aksaraStart || k.isDottedCircle

end Cluster

/-- Whether a character of a class is added to the character before it. -/
def isMark (cls : Class) : Bool := cls = .mark || cls = .joiner

/-- A character by itself. A mark that belongs to nothing counts as a letter. -/
def single (c : Char) : Cluster :=
  let cls := classOf c
  { char := c, cls := if isMark cls then .letter else cls, joins := cls = .joiner }

/-- The clusters of a text, behind the clusters read so far, last one first. -/
def clustersFrom (read : List Cluster) : List Char → List Cluster
  | [] => read.reverse
  | c :: rest =>
      match read with
      | [] => clustersFrom [single c] rest
      | last :: before =>
          let cls := classOf c
          if isMark cls && !last.cls.bearsNoMark then
            clustersFrom ({ last with marks := last.marks + 1, joins := cls = .joiner } :: before)
              rest
          else clustersFrom (single c :: read) rest

/-- The clusters of a text. -/
def clusters (text : List Char) : List Cluster := clustersFrom [] text

/-! ## Places -/

/-- A place between two clusters. -/
structure Place where
  left : Cluster
  /-- What stands before `left`, nearest first. -/
  before : List Cluster
  right : Cluster
  /-- What comes behind `right`. -/
  after : List Cluster
  deriving DecidableEq, Repr

namespace Place

/-- The last cluster before the place that is no blank, and what stands before
it, nearest first. -/
def ink? (p : Place) : Option (Cluster × List Cluster) :=
  match (p.left :: p.before).dropWhile (·.cls = .space) with
  | [] => none
  | k :: before => some (k, before)

/-- The class of the last cluster before the place that is no blank. -/
def inkClass? (p : Place) : Option Class := p.ink?.map (·.1.cls)

end Place

/-- A rule says that a line may be broken at a place, that it may not, or nothing. -/
abbrev Rule := Place → Option Bool

/-- A rule that keeps together what meets a condition. -/
def keepIf (condition : Place → Bool) : Rule := fun p => if condition p then some false else none

/-- A rule that lets a line be broken under a condition. -/
def breakIf (condition : Place → Bool) : Rule := fun p => if condition p then some true else none

/-- A rule that keeps certain classes together. -/
def keepPair (condition : Class → Class → Bool) : Rule :=
  keepIf fun p => condition p.left.cls p.right.cls

namespace Rule

/-- A run of complex letters is kept together as long as its script stays the
same, and ends at a place where the line may be broken. -/
def complexRun : Rule := fun p =>
  if p.left.cls ≠ .complex then none
  else if p.right.cls = .complex then some (scriptOf? p.left.char ≠ scriptOf? p.right.char)
  else if p.before.head?.any (·.cls = .complex) then some true
  else none

/-- A line is broken behind what ends it. -/
def lineEnd : Rule := fun p =>
  if p.left.cls = .carriageReturn && p.right.cls = .lineFeed then some false
  else if p.left.cls.endsLine then some true
  else if p.right.cls.endsLine then some false
  else none

/-- Blanks stay behind what they follow. -/
def beforeBlank : Rule := keepPair fun _ r => r = .space || r = .zeroWidthSpace

/-- A line may be broken behind a blank that is not seen. -/
def afterZeroWidthSpace : Rule := breakIf fun p => p.inkClass? = some .zeroWidthSpace

/-- Joiners hold their neighbours together. -/
def joined : Rule :=
  keepIf fun p => p.left.joins || p.left.cls = .wordJoiner || p.right.cls = .wordJoiner

/-- So do blanks that are no place for a break, except behind a break. -/
def glued : Rule := keepPair fun l r =>
  l = .glue || (r = .glue && !(l = .space || l = .breakAfter || l = .hyphen))

/-- Closing marks follow what they close, also behind blanks. -/
def beforeClosing : Rule := keepPair fun _ r =>
  r.isClosing || r = .exclamation || r = .separator || r = .slash

/-- What is opened goes with the bracket that opens it, also behind blanks. -/
def afterOpening : Rule := keepIf fun p => p.inkClass?.any (·.isOpening)

/-- Whether something may come directly before the mark that begins a quotation. -/
def precedesQuotation (cls : Class) : Bool :=
  cls.endsLine || cls.isOpening || cls.isQuotation || cls = .glue || cls = .space ||
    cls = .zeroWidthSpace

/-- What is quoted goes with the mark that begins the quotation, also behind blanks. -/
def afterInitialQuotation : Rule := keepIf fun p =>
  match p.ink? with
  | none => false
  | some (mark, before) =>
      mark.cls = .initialQuotation && before.head?.all (precedesQuotation ·.cls)

/-- Whether something may come directly behind the mark that ends a quotation. -/
def followsQuotation (cls : Class) : Bool :=
  cls.endsLine || cls.isClosing || cls.isQuotation || cls = .glue || cls = .space ||
    cls = .zeroWidthSpace || cls = .wordJoiner || cls = .exclamation || cls = .separator ||
    cls = .slash

/-- The mark that ends a quotation follows what is quoted, also behind blanks. -/
def beforeFinalQuotation : Rule := keepIf fun p =>
  p.right.cls = .finalQuotation && p.after.head?.all (followsQuotation ·.cls)

/-- What begins no line stays with a closing bracket, and dashes stay
together, also behind blanks. -/
def acrossBlanks : Rule := keepIf fun p =>
  match p.inkClass? with
  | none => false
  | some ink =>
      (ink.isClosing && p.right.cls = .nonstarter) || (ink = .dash && p.right.cls = .dash)

/-- A line may be broken behind a blank. -/
def afterBlank : Rule := breakIf fun p => p.left.cls = .space

/-- Quotation marks go with their neighbours. -/
def aroundQuotation : Rule := keepPair fun l r => l.isQuotation || r.isQuotation

/-- A line may be broken on both sides of what is yet to be filled in. -/
def aroundContingent : Rule := breakIf fun p =>
  p.left.cls = .contingent || p.right.cls = .contingent

/-- Hyphens and what begins no line follow what is before them. -/
def beforeHyphen : Rule := keepPair fun l r =>
  r = .breakAfter || r = .hyphen || r = .nonstarter || l = .breakBefore

/-- A hyphen behind a Hebrew letter does not end a line. -/
def hebrewHyphen : Rule := keepIf fun p =>
  (p.left.cls = .hyphen || p.left.cls = .breakAfter) && p.before.head?.any (·.cls = .hebrew)

/-- A slash in front of a Hebrew letter does not end a line. -/
def hebrewSlash : Rule := keepPair fun l r => l = .slash && r = .hebrew

/-- Dots that leave something out follow what is before them. -/
def beforeInseparable : Rule := keepPair fun _ r => r = .inseparable

/-- Letters and digits go together, and so do the signs that go with either. -/
def words : Rule := keepPair fun l r =>
  (l.isLetter && r = .number) || (l = .number && r.isLetter) ||
    (l = .beforeNumber && r.isIdeographic) || (l.isIdeographic && r = .afterNumber) ||
    ((l = .beforeNumber || l = .afterNumber) && r.isLetter) ||
    (l.isLetter && (r = .beforeNumber || r = .afterNumber))

/-- What makes up a number is kept together. -/
def numbers : Rule := keepPair fun l r =>
  match l, r with
  | .closing, .afterNumber | .closing, .beforeNumber => true
  | .closingRound, .afterNumber | .closingRound, .beforeNumber => true
  | .number, .afterNumber | .number, .beforeNumber | .number, .number => true
  | .afterNumber, .opening | .afterNumber, .wideOpening | .afterNumber, .number => true
  | .beforeNumber, .opening | .beforeNumber, .wideOpening | .beforeNumber, .number => true
  | .hyphen, .number | .separator, .number | .slash, .number => true
  | _, _ => false

/-- The parts of a Korean syllable are kept together, and syllables with the
signs that go with numbers. -/
def syllables : Rule := keepPair fun l r =>
  match l, r with
  | .leadingJamo, .leadingJamo | .leadingJamo, .vowelJamo => true
  | .leadingJamo, .openSyllable | .leadingJamo, .closedSyllable => true
  | .vowelJamo, .vowelJamo | .vowelJamo, .trailingJamo => true
  | .openSyllable, .vowelJamo | .openSyllable, .trailingJamo => true
  | .trailingJamo, .trailingJamo | .closedSyllable, .trailingJamo => true
  | _, _ => (l.isKorean && r = .afterNumber) || (l = .beforeNumber && r.isKorean)

/-- Letters go together. -/
def letters : Rule := keepPair fun l r => l.isLetter && r.isLetter

/-- The parts of a syllable that is written around a virama are kept together. -/
def viramas : Rule := keepIf fun p =>
  (p.left.cls = .aksaraPrebase && p.right.bearsVirama) ||
    (p.left.bearsVirama && (p.right.cls = .finalVirama || p.right.cls = .virama)) ||
    (p.left.cls = .virama && (p.right.cls = .aksara || p.right.isDottedCircle) &&
      p.before.head?.any (·.bearsVirama)) ||
    (p.left.bearsVirama && p.right.bearsVirama && p.after.head?.any (·.cls = .finalVirama))

/-- A mark inside a number is also one inside an abbreviation. -/
def abbreviations : Rule := keepPair fun l r => l = .separator && r.isLetter

/-- Brackets inside a word are part of it. -/
def brackets : Rule := keepPair fun l r =>
  (l.isWordPart && r = .opening) || (l = .closingRound && r.isWordPart)

/-- The two halves of a flag are kept together. -/
def flags : Rule := keepIf fun p =>
  p.left.cls = .regional && p.right.cls = .regional &&
    (p.before.takeWhile (·.cls = .regional)).length % 2 = 0

/-- A modifier goes with its picture. -/
def modifiers : Rule := keepPair fun l r =>
  (l = .pictureBase || l = .reservedPicture) && r = .pictureModifier

end Rule

/-- The rules, in the order in which they are asked. -/
def rules : List Rule :=
  [.complexRun, .lineEnd, .beforeBlank, .afterZeroWidthSpace, .joined, .glued, .beforeClosing,
    .afterOpening, .afterInitialQuotation, .beforeFinalQuotation, .acrossBlanks, .afterBlank,
    .aroundQuotation, .aroundContingent, .beforeHyphen, .hebrewHyphen, .hebrewSlash,
    .beforeInseparable, .words, .numbers, .syllables, .letters, .viramas, .abbreviations,
    .brackets, .flags, .modifiers]

/-- Whether a line may be broken at a place. -/
def Place.mayBreak (p : Place) : Bool := (rules.findSome? (· p)).getD true

/-! ## Texts -/

/-- For every character behind `read`, whether a line may be broken behind it.
`read` holds the clusters so far, last one first. -/
def breaksFrom (read : List Cluster) : List Cluster → List Bool
  | [] => []
  | k :: rest =>
      let last := match rest with
        | [] => true
        | next :: after => Place.mayBreak ⟨k, read, next, after⟩
      List.replicate k.marks false ++ last :: breaksFrom (k :: read) rest

/-- For every character of a text, whether a line may be broken behind it. The
end of the text is such a place. -/
def breaks (text : List Char) : List Bool := breaksFrom [] (clusters text)

/-- The runs of complex letters, each of one script, that would have to be looked
up in a dictionary. A letter that stands alone is no run. -/
def complexRuns (text : List Char) : List (List Cluster) :=
  let runs := (clusters text).splitBy fun a b => a.cls = .complex && b.cls = .complex
  let long := runs.filter fun run => run.head?.any (·.cls = .complex) && 1 < run.length
  long.flatMap fun run => run.splitBy fun a b => scriptOf? a.char = scriptOf? b.char

/-- The scripts of the runs of complex letters in a text, in order. -/
def scripts (text : List Char) : List Script :=
  (complexRuns text).filterMap fun run => run.head?.bind (scriptOf? ·.char)

end GoldenFiles.Text.LineBreak
