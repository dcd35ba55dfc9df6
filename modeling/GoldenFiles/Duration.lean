import GoldenFiles.Decimal.Style

/-!
# Durations

A duration is whole seconds and a billionth part. It is shown as a number of
seconds, in two styles: a sentence writes every number out, says "2" for two
seconds and rounds a half up, while a JSON document marks whole numbers as
numbers with a point, takes an exponent for very large and very small ones and
rounds a half to the even digit.
-/

namespace GoldenFiles

/-- A span of time. -/
structure Duration where
  seconds : Nat
  nanos : Nat := 0
  deriving DecidableEq, Repr

namespace Duration

/-- No time at all. -/
def zero : Duration := ⟨0, 0⟩

/-- The number of seconds. -/
def inSeconds (d : Duration) : Binary64 :=
  (Binary64.ofNat d.seconds).add (Binary64.ofRatio d.nanos 1000000000)

/-- A sentence never uses an exponent and does not mark whole numbers. -/
def sentenceStyle : Decimal.Style := ⟨.larger, none, none, ""⟩

/-- A document writes out leading digits from 10^-5 to 10^15 and marks whole
numbers. -/
def documentStyle : Decimal.Style := ⟨.even, some (-5), some 15, ".0"⟩

/-- The seconds as a sentence says them. -/
def sentence (d : Duration) : String :=
  sentenceStyle.text d.inSeconds

/-- The seconds as a document writes them. -/
def numeral (d : Duration) : String :=
  documentStyle.text d.inSeconds

end Duration

end GoldenFiles
