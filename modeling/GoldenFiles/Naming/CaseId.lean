import GoldenFiles.Text.Digits

/-!
# Case identifiers

A case is named by the text between the input marker and the first dot of its
file name. People number their cases, so an identifier that is a number sorts
as one: 2 stands before 10. Numbers are compared as numbers only as long as
they are below 2^128; a longer run of digits is text like any other, and every
text stands after every number. Two spellings of one number are two cases, and
the texts decide between them.
-/

namespace GoldenFiles

/-- The identifier of a case. -/
structure CaseId where
  text : String
  deriving DecidableEq, Repr, Inhabited

namespace CaseId

/-- The number an identifier is compared by, if it is one. -/
def number? (id : CaseId) : Option Nat :=
  (Digits.number? id.text.toList).filter (· < Nat.pow 2 128)

/-- Texts are ordered by code point, which is the order of their UTF-8 bytes. -/
def compareText (a b : CaseId) : Ordering := compare a.text.toList b.text.toList

/-- Numbers by value and then by text, before everything else; the rest by text. -/
instance : Ord CaseId where
  compare a b :=
    match a.number?, b.number? with
    | some m, some n => (compare m n).then (compareText a b)
    | some _, none => .lt
    | none, some _ => .gt
    | none, none => compareText a b

end CaseId

end GoldenFiles
