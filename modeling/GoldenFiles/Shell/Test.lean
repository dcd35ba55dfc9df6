import GoldenFiles.Program.Number

/-!
# Tests

A test is a row of words that is true or false. Words are taken for operators
where they can be, which depends on what stands around them: an operator on one
text is a text itself if nothing follows that it could be about, or if an
operator between two texts does.
-/

namespace GoldenFiles.Shell

open Program (Text Process ofString)

/-- What a word of a test is. -/
inductive TestWord where
  /-- There is none. -/
  | nothing
  | operand
  | unary (operator : Text)
  | binary (operator : Text)
  | not
  | and
  | or
  | opening
  | closing
  deriving DecidableEq, Repr

/-- The operators on one text. -/
def unaryOperators : List String :=
  ["-r", "-w", "-x", "-e", "-f", "-d", "-c", "-b", "-p", "-u", "-g", "-k", "-s", "-t", "-z", "-n",
    "-h", "-O", "-G", "-L", "-S"]

/-- The operators between two texts. -/
def binaryOperators : List String :=
  ["=", "!=", "<", ">", "-eq", "-ne", "-ge", "-gt", "-le", "-lt", "-nt", "-ot", "-ef"]

/-- Whether a text is an operator between two texts. -/
def isBinary (text : Text) : Bool := binaryOperators.any (·.toList = text)

/-- What the first of some words is. -/
def testWord : List Text → TestWord
  | [] => .nothing
  | word :: rest =>
      if isBinary word then .binary word
      else if word = ['!'] then .not
      else if word = ['-', 'a'] then .and
      else if word = ['-', 'o'] then .or
      else if word = [')'] then .closing
      else if word = ['('] then if rest = [] then .operand else .opening
      else if unaryOperators.any (·.toList = word) then
        match rest with
        | [] => .operand
        | [_] => .unary word
        | next :: _ => if isBinary next then .operand else .unary word
      else .operand

/-- The decimal number that a text is. -/
def wholeNumber (text : Text) : Except Text Int :=
  let read := Program.readNumber false text
  let (n, close) := read.signed
  if read.rest ≠ text ∧ close ∧ read.rest.all Program.isSpace then .ok n
  else .error (ofString "Illegal number: " ++ text)

/-- A test of one text. -/
def unaryTest (p : Process) (operator text : Text) : Except Text Bool :=
  let found := (p.files.stat (Program.pathOf text)).toOption
  let isDevice := (Program.Process.device? text).isSome
  let there := found.isSome || isDevice
  match operator with
  | ['-', 'n'] => .ok (text ≠ [])
  | ['-', 'z'] => .ok (text = [])
  | ['-', 't'] => (wholeNumber text).map fun _ => false
  | ['-', 'e'] | ['-', 'r'] | ['-', 'w'] | ['-', 'O'] | ['-', 'G'] => .ok there
  | ['-', 'c'] => .ok isDevice
  | ['-', 'f'] => .ok (found.any fun | (_, .file ..) => true | _ => false)
  | ['-', 'd'] => .ok (found.any fun | (_, .directory) => true | _ => false)
  | ['-', 's'] =>
      .ok (found.any fun (loc, entry) => entry = .directory || (p.content? loc).any (· ≠ []))
  | ['-', 'x'] => .ok (found.any fun | (_, .file _ executable) => executable | _ => true)
  | ['-', 'L'] | ['-', 'h'] =>
      .ok ((p.files.find false (Program.pathOf text)).toOption.any
        fun | .entry _ (.link _) => true | _ => false)
  | _ => .ok false

/-- A test of two texts, which may have to be numbers. -/
def binaryTest (p : Process) (operator a b : Text) : Except Text Bool :=
  let numbers (compare : Int → Int → Bool) : Except Text Bool := do
    let m ← wholeNumber a
    let n ← wholeNumber b
    return compare m n
  let place (text : Text) : Option Location :=
    (p.files.stat (Program.pathOf text)).toOption.map Prod.fst
  match String.ofList operator with
  | "=" => .ok (a = b)
  | "!=" => .ok (a ≠ b)
  | "<" => .ok (a < b)
  | ">" => .ok (b < a)
  | "-eq" => numbers fun m n => m = n
  | "-ne" => numbers fun m n => m ≠ n
  | "-lt" => numbers fun m n => m < n
  | "-le" => numbers fun m n => m ≤ n
  | "-gt" => numbers fun m n => n < m
  | "-ge" => numbers fun m n => n ≤ m
  | "-ef" => .ok ((place a).isSome ∧ place a = place b)
  | "-nt" => .ok ((place a).isSome ∧ (place b).isNone)
  | _ => .ok ((place b).isSome ∧ (place a).isNone)

/-- What is said of an operator that has nothing to be about. -/
def missingArgument (operator : Text) : Text := operator ++ ofString ": argument expected"

mutual

/-- Tests of which one has to be true: the answer, and the words from the last
one on that was looked at. -/
def anyOf (p : Process) : (fuel : Nat) → TestWord → List Text → Except Text (Bool × List Text)
  | 0, _, words => .ok (false, words)
  | fuel + 1, first, words => do
      let (answer, words) ← allOf p fuel first words
      if testWord words.tail = .or then
        let words := words.drop 2
        let (more, words) ← anyOf p fuel (testWord words) words
        return (answer || more, words)
      else return (answer, words)

/-- Tests that all have to be true. -/
def allOf (p : Process) : (fuel : Nat) → TestWord → List Text → Except Text (Bool × List Text)
  | 0, _, words => .ok (false, words)
  | fuel + 1, first, words => do
      let (answer, words) ← negated p fuel first words
      if testWord words.tail = .and then
        let words := words.drop 2
        let (more, words) ← allOf p fuel (testWord words) words
        return (answer && more, words)
      else return (answer, words)

/-- A test that may be turned around. -/
def negated (p : Process) : (fuel : Nat) → TestWord → List Text → Except Text (Bool × List Text)
  | 0, _, words => .ok (false, words)
  | fuel + 1, first, words =>
      if first ≠ .not then single p fuel first words
      else do
        let next := testWord words.tail
        let (answer, words) ← negated p fuel next (if next = .nothing then words else words.tail)
        return (!answer, words)

/-- A test of its own. -/
def single (p : Process) : (fuel : Nat) → TestWord → List Text → Except Text (Bool × List Text)
  | 0, _, words => .ok (false, words)
  | fuel + 1, first, words =>
      match first, words with
      | .nothing, _ | _, [] => .ok (false, words)
      | .opening, _ :: words => do
          let next := testWord words
          if next = .closing then return (false, words)
          else
            let (answer, words) ← anyOf p fuel next words
            if testWord words.tail = .closing then return (answer, words.tail)
            else .error (ofString "closing paren expected")
      | .unary operator, _ :: words =>
          match words with
          | [] => .error (missingArgument operator)
          | text :: _ => do
              let answer ← unaryTest p operator text
              return (answer, words)
      | _, a :: rest =>
          match testWord rest, rest with
          | .binary operator, _ :: words =>
              match words with
              | [] => .error (missingArgument operator)
              | b :: _ => do
                  let answer ← binaryTest p operator a b
                  return (answer, words)
          | _, _ => .ok (a ≠ [], words)

end

/-- The answer to all words, none of which may be left. -/
def answerOf (p : Process) (first : TestWord) (words : List Text) : Except Text Bool := do
  let (answer, rest) ← anyOf p (4 * words.length + 8) first words
  match rest with
  | [] :: _ :: _ => .error (ofString "unexpected operator")
  | word :: _ :: _ => .error (word ++ ofString ": unexpected operator")
  | _ => return answer

/-- Carries out a test. What is wrong with one that makes no sense is said. With
three words, an operator in the middle is one; with three or four, brackets
around the others, or else what turns them around. -/
def test (p : Process) : List Text → Except Text Bool
  | [] => .ok false
  | word :: rest =>
      let words := word :: rest
      let inner := rest.dropLast
      if words.length = 3 ∧ rest.head?.any isBinary then answerOf p .operand words
      else if words.length = 3 ∨ words.length = 4 then
        if word = ['('] ∧ rest.getLast? = some [')'] then answerOf p (testWord inner) inner
        else if word = ['!'] then (test p rest).map (!·)
        else answerOf p (testWord words) words
      else answerOf p (testWord words) words

end GoldenFiles.Shell
