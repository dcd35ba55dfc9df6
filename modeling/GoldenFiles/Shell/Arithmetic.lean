import GoldenFiles.Shell.State

/-!
# Arithmetic in scripts

Expressions over whole numbers of 64 bits, with the usual operators. A name
stands for the number its value is, and for zero if it has none. An expression
can give values to names, so it is read and carried out in one go; a part whose
value is not wanted is read and nothing in it is done.
-/

namespace GoldenFiles.Shell

open Program (Text)

/-! ## Words of expressions -/

/-- A word of an expression. -/
inductive ArithmeticToken where
  | number (n : Int)
  | name (name : Text)
  | operator (text : String)
  /-- A character that no word begins with. -/
  | stray
  deriving DecidableEq, Repr

/-- The operators, longer ones first. -/
def operators : List String :=
  ["<<=", ">>=", "<<", ">>", "<=", ">=", "==", "!=", "&&", "||", "+=", "-=", "*=", "/=", "%=",
    "&=", "|=", "^=", "+", "-", "*", "/", "%", "<", ">", "&", "|", "^", "=", "!", "~", "(", ")",
    "?", ":"]

/-- The words of an expression, at most `fuel` of them. Nothing is read behind a
stray character. -/
def arithmeticTokens : (fuel : Nat) → Text → List ArithmeticToken
  | 0, _ | _, [] => []
  | fuel + 1, c :: rest =>
      let text := c :: rest
      if c = ' ' ∨ c = '\t' ∨ c = '\n' then arithmeticTokens fuel rest
      else if c.isDigit then
        let read := Program.readNumber true text
        .number read.signed.1 :: arithmeticTokens fuel read.rest
      else if c.isAlpha ∨ c = '_' then
        let word := text.takeWhile fun c => c.isAlphanum || c = '_'
        .name word :: arithmeticTokens fuel (text.drop word.length)
      else
        match operators.find? fun word => word.toList.isPrefixOf text with
        | none => [.stray]
        | some word => .operator word :: arithmeticTokens fuel (text.drop word.length)

/-! ## Operations -/

/-- How tightly an operator between two numbers binds. -/
def precedence? : String → Option Nat
  | "|" => some 1
  | "^" => some 2
  | "&" => some 3
  | "==" | "!=" => some 4
  | "<" | "<=" | ">" | ">=" => some 5
  | "<<" | ">>" => some 6
  | "+" | "-" => some 7
  | "*" | "/" | "%" => some 8
  | _ => none

/-- A truth value as a number. -/
def truth (b : Bool) : Int := if b then 1 else 0

/-- A number of 64 bits. -/
def wrapped (n : Int) : Int := n.bmod (Nat.pow 2 64)

/-- The operation on the bits of two numbers. -/
def bitwise (op : Nat → Nat → Nat) (a b : Int) : Int :=
  let bits (n : Int) : Nat := (n % Nat.pow 2 64).toNat
  wrapped (op (bits a) (bits b))

/-- Why an expression has no value. -/
inductive ArithmeticError where
  /-- The value of a name is no number. -/
  | notNumber (value : Text)
  | noPrimary
  | noEnd
  | noColon
  | noClosing
  | divisionByZero
  /-- A name has to keep its value. -/
  | fixed (name : Text)
  /-- The result of a division is too large, which ends the shell. -/
  | overflow
  deriving DecidableEq, Repr

/-- What is said of an expression that has no value. -/
def ArithmeticError.message (expression : Text) (e : ArithmeticError) : Text :=
  let about (why : String) : Text :=
    Program.ofString ("arithmetic expression: " ++ why ++ ": ") ++
      ['\x22'] ++ expression ++ ['\x22']
  match e with
  | notNumber value => Program.ofString "Illegal number: " ++ value
  | noPrimary => about "expecting primary"
  | noEnd => about "expecting EOF"
  | noColon => about "expecting ':'"
  | noClosing => about "expecting ')'"
  | divisionByZero => about "division by zero"
  | fixed name => State.fixedMessage name
  | overflow => []

/-- What an operator makes of two numbers. -/
def operate (operator : String) (a b : Int) : Except ArithmeticError Int :=
  let divided (result : Int) : Except ArithmeticError Int :=
    if b = 0 then .error .divisionByZero
    else if b = -1 ∧ a = -(Nat.pow 2 63 : Nat) then .error .overflow
    else .ok result
  match operator with
  | "|" => .ok (bitwise (· ||| ·) a b)
  | "^" => .ok (bitwise (· ^^^ ·) a b)
  | "&" => .ok (bitwise (· &&& ·) a b)
  | "==" => .ok (truth (a = b))
  | "!=" => .ok (truth (a ≠ b))
  | "<" => .ok (truth (a < b))
  | "<=" => .ok (truth (a ≤ b))
  | ">" => .ok (truth (b < a))
  | ">=" => .ok (truth (b ≤ a))
  | "<<" => .ok (wrapped (a * Nat.pow 2 (b % 64).toNat))
  | ">>" => .ok (a.fdiv (Nat.pow 2 (b % 64).toNat))
  | "+" => .ok (wrapped (a + b))
  | "-" => .ok (wrapped (a - b))
  | "*" => .ok (wrapped (a * b))
  | "/" => divided (a.tdiv b)
  | _ => divided (a.tmod b)

/-- The operator inside an operator that gives a value to a name, which is empty
for a value of its own. -/
def assignmentOperator? : String → Option String
  | "=" => some ""
  | "+=" => some "+"
  | "-=" => some "-"
  | "*=" => some "*"
  | "/=" => some "/"
  | "%=" => some "%"
  | "<<=" => some "<<"
  | ">>=" => some ">>"
  | "&=" => some "&"
  | "|=" => some "|"
  | "^=" => some "^"
  | _ => none

/-! ## Names -/

/-- The number that the value of a name is; no value is zero. Blanks may stand on
both sides. -/
def numberOf (value : Text) : Except ArithmeticError Int :=
  let read := Program.readNumber true value
  let (n, close) := read.signed
  let after := if read.rest = value then value.dropWhile Program.isSpace else read.rest
  if close ∧ after.all Program.isSpace then .ok n else .error (.notNumber value)

/-- The number that a name stands for. -/
def State.number? (s : State) (name : Text) : Except ArithmeticError Int :=
  numberOf ((s.value? name).getD [])

/-- Gives a name a number. -/
def State.setNumber (s : State) (name : Text) (n : Int) : Except ArithmeticError State :=
  if s.isFixed name then .error (.fixed name) else .ok (s.set name (toString n).toList)

/-! ## Expressions -/

/-- What has been read of an expression, the number it comes to, and the shell
after it. -/
structure Reckoning where
  value : Int
  rest : List ArithmeticToken
  state : State

mutual

/-- Reads an expression that may give a value to a name. With `idle` nothing is
done. -/
def assigned : (fuel : Nat) → (idle : Bool) → List ArithmeticToken → State →
    Except ArithmeticError Reckoning
  | 0, _, _, _ => .error .noPrimary
  | fuel + 1, idle, tokens, s =>
      match tokens with
      | .name name :: .operator word :: rest =>
          match assignmentOperator? word with
          | none => conditioned fuel idle tokens s
          | some inner => do
              let right ← assigned fuel idle rest s
              if idle then return right
              else
                let value ←
                  if inner = "" then pure right.value
                  else do
                    let before ← right.state.number? name
                    operate inner before right.value
                let state ← right.state.setNumber name value
                return { right with value := value, state := state }
      | _ => conditioned fuel idle tokens s

/-- Reads a choice between two expressions, or an expression without one. -/
def conditioned : (fuel : Nat) → (idle : Bool) → List ArithmeticToken → State →
    Except ArithmeticError Reckoning
  | 0, _, _, _ => .error .noPrimary
  | fuel + 1, idle, tokens, s => do
      let test ← disjoined fuel idle tokens s
      match test.rest with
      | .operator "?" :: rest =>
          let yes ← assigned fuel (idle || test.value = 0) rest test.state
          match yes.rest with
          | .operator ":" :: rest =>
              let no ← conditioned fuel (idle || test.value ≠ 0) rest yes.state
              return { no with value := if test.value ≠ 0 then yes.value else no.value }
          | _ => .error .noColon
      | _ => return test

/-- Reads expressions of which one has to be true. -/
def disjoined : (fuel : Nat) → (idle : Bool) → List ArithmeticToken → State →
    Except ArithmeticError Reckoning
  | 0, _, _, _ => .error .noPrimary
  | fuel + 1, idle, tokens, s => do
      let first ← conjoined fuel idle tokens s
      match first.rest with
      | .operator "||" :: rest =>
          let second ← disjoined fuel (idle || first.value ≠ 0) rest first.state
          return { second with value := truth (first.value ≠ 0 ∨ second.value ≠ 0) }
      | _ => return first

/-- Reads expressions that all have to be true. -/
def conjoined : (fuel : Nat) → (idle : Bool) → List ArithmeticToken → State →
    Except ArithmeticError Reckoning
  | 0, _, _, _ => .error .noPrimary
  | fuel + 1, idle, tokens, s => do
      let first ← operand fuel idle tokens s
      let first ← operations fuel idle 1 first
      match first.rest with
      | .operator "&&" :: rest =>
          let second ← conjoined fuel (idle || first.value = 0) rest first.state
          return { second with value := truth (first.value ≠ 0 ∧ second.value ≠ 0) }
      | _ => return first

/-- Reads the operators that follow a number and bind at least so tightly. -/
def operations : (fuel : Nat) → (idle : Bool) → (least : Nat) → Reckoning →
    Except ArithmeticError Reckoning
  | 0, _, _, _ => .error .noPrimary
  | fuel + 1, idle, least, first =>
      match first.rest with
      | .operator word :: rest =>
          match precedence? word with
          | none => .ok first
          | some level =>
              if level < least then .ok first
              else do
                let second ← operand fuel idle rest first.state
                let second ← operations fuel idle (level + 1) second
                let value ←
                  if idle then pure second.value else operate word first.value second.value
                operations fuel idle least { second with value := value }
      | _ => .ok first

/-- Reads one number. -/
def operand : (fuel : Nat) → (idle : Bool) → List ArithmeticToken → State →
    Except ArithmeticError Reckoning
  | 0, _, _, _ => .error .noPrimary
  | fuel + 1, idle, tokens, s =>
      match tokens with
      | .number n :: rest => .ok ⟨n, rest, s⟩
      | .name name :: rest => do
          let n ← if idle then pure 1 else s.number? name
          return ⟨n, rest, s⟩
      | .operator "(" :: rest => do
          let inner ← assigned fuel idle rest s
          match inner.rest with
          | .operator ")" :: rest => return { inner with rest := rest }
          | _ => .error .noClosing
      | .operator "-" :: rest => do
          let inner ← operand fuel idle rest s
          return { inner with value := wrapped (-inner.value) }
      | .operator "+" :: rest => operand fuel idle rest s
      | .operator "!" :: rest => do
          let inner ← operand fuel idle rest s
          return { inner with value := truth (inner.value = 0) }
      | .operator "~" :: rest => do
          let inner ← operand fuel idle rest s
          return { inner with value := -inner.value - 1 }
      | _ => .error .noPrimary

end

/-- The value of an expression, and the shell after it. -/
def arithmetic (text : Text) (s : State) : Except ArithmeticError (Int × State) := do
  let tokens := arithmeticTokens (text.length + 1) text
  let found ← assigned (8 * (tokens.length + 1)) false tokens s
  if found.rest = [] then return (found.value, found.state) else .error .noEnd

end GoldenFiles.Shell
