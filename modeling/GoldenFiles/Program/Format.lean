import GoldenFiles.Program.Escape
import GoldenFiles.Program.Floating
import GoldenFiles.Program.Quoting

/-!
# Printing by a format

A format is text with directives in it, each of which prints an argument. It is
used again as long as arguments are left, and missing arguments are empty. An
argument that is no number where one is wanted is printed as far as it is one,
and complained about. A directive that makes no sense ends all printing.
-/

namespace GoldenFiles.Program

/-- What differs between the programs that print by a format. -/
structure Dialect where
  /-- The numbers with fractions. -/
  precision : Precision
  /-- How many bits of a mantissa stand before the point in hexadecimal. -/
  leadingBits : Nat
  /-- The escapes in a format. -/
  escapes : Escapes
  /-- The escapes in an argument that may have some. -/
  argumentEscapes : Escapes
  /-- Flags are told apart by what they go with, sizes may be given, and text with
  escapes or in quotes has nothing to it but its letter. -/
  exact : Bool
  /-- What is said of an argument that is no number, or not to its end, or too
  large. -/
  notNumber : Text → Text
  notWhole : Text → Text
  tooLarge : Text → Text
  /-- What is said of a directive that is not known, and of one that is not
  finished. -/
  unknown : Text → Text
  unfinished : Text → Text

/-- A text at the left or the right of a field. -/
def padded (left : Bool) (fill : Char) (width : Nat) (text : Text) : Text :=
  let missing := List.replicate (width - text.length) fill
  if left then text ++ missing.map fun _ => ' ' else missing ++ text

/-- How an argument is printed. -/
structure Directive where
  left : Bool := false
  zero : Bool := false
  plus : Bool := false
  space : Bool := false
  alternate : Bool := false
  grouped : Bool := false
  width : Nat := 0
  precision : Option Nat := none
  kind : Char := 's'
  deriving DecidableEq, Repr

/-- Reads the flags of a directive. -/
def flags (dialect : Dialect) (d : Directive) : Text → Directive × Text
  | '-' :: rest => flags dialect { d with left := true } rest
  | '0' :: rest => flags dialect { d with zero := true } rest
  | '+' :: rest => flags dialect { d with plus := true } rest
  | ' ' :: rest => flags dialect { d with space := true } rest
  | '#' :: rest => flags dialect { d with alternate := true } rest
  | '\x27' :: rest =>
      if dialect.exact then flags dialect { d with grouped := true } rest else (d, '\x27' :: rest)
  | rest => (d, rest)

/-! ## Numbers -/

/-- What is said of an argument that was read as a number. -/
def Dialect.complaints (dialect : Dialect) (text rest : Text) (close : Bool) : List Text :=
  if !close then [dialect.tooLarge text]
  else if rest = [] then []
  else if rest = text then [dialect.notNumber text]
  else [dialect.notWhole text]

/-- The number of the character behind a quote, if an argument begins with one. -/
def quotedNumber? (dialect : Dialect) (text : Text) : Option Nat :=
  match text with
  | quote :: rest =>
      if quote ≠ '\x27' ∧ quote ≠ '\x22' then none
      else if !dialect.exact then some ((rest.head?.map Char.toNat).getD 0)
      else
        match rest with
        | [] => none
        | c :: _ =>
            match Utf8.scan (toBytes rest) with
            | some whole :: _ => some whole.toNat
            | _ => some c.toNat
  | [] => none

/-- The signed number that an argument is, and what is said of it. -/
def Dialect.signed (dialect : Dialect) (text : Text) : Int × List Text :=
  match quotedNumber? dialect text with
  | some n => (n, [])
  | none =>
      let read := readNumber true text
      let (n, close) := read.signed
      (n, dialect.complaints text read.rest close)

/-- The number without a sign that an argument is, and what is said of it. -/
def Dialect.natural (dialect : Dialect) (text : Text) : Nat × List Text :=
  match quotedNumber? dialect text with
  | some n => (n, [])
  | none =>
      let read := readNumber true text
      let (n, close) := read.natural
      (n, dialect.complaints text read.rest close)

/-- The number with a fraction that an argument is, and what is said of it. -/
def Dialect.floating (dialect : Dialect) (text : Text) : Floating × List Text :=
  match quotedNumber? dialect text with
  | some n => (.finite false n 0, [])
  | none =>
      let (n, close, rest) := dialect.precision.read text
      (n, dialect.complaints text rest close)

/-- A number in a base, with at least so many digits. -/
def digitsOf (base : Nat) (least : Nat) (n : Nat) : Text :=
  padded false '0' least (if n = 0 ∧ least = 0 then [] else Nat.toDigits base n)

namespace Directive

/-- What stands in front of a number. -/
def sign (d : Directive) (negative : Bool) : Text :=
  if negative then ['-'] else if d.plus then ['+'] else if d.space then [' '] else []

/-- A number in its field, filled with zeros if that is asked for. -/
def field (d : Directive) (zeros : Bool) (front digits : Text) : Text :=
  if d.zero ∧ !d.left ∧ zeros then front ++ padded false '0' (d.width - front.length) digits
  else padded d.left ' ' d.width (front ++ digits)

/-- A whole number without a sign. -/
def natural (d : Directive) (n : Nat) : Text :=
  let least := d.precision.getD 1
  let whole (front : Text) (base : Nat) : Text :=
    d.field d.precision.isNone (if d.alternate ∧ n ≠ 0 then front else []) (digitsOf base least n)
  match d.kind with
  | 'o' =>
      let digits := digitsOf 8 least n
      let digits := if d.alternate ∧ digits.head? ≠ some '0' then '0' :: digits else digits
      d.field d.precision.isNone [] digits
  | 'x' => whole ['0', 'x'] 16
  | 'X' => (whole ['0', 'x'] 16).map Char.toUpper
  | _ => d.field d.precision.isNone [] (digitsOf 10 least n)

/-- A finite number without its sign, in small letters. -/
def unsigned (d : Directive) (dialect : Dialect) (m : Nat) (e : Int) : Text :=
  let r := Ratio.ofBinary m e
  let places := d.precision.getD 6
  match d.kind.toLower with
  | 'f' => fixedText places d.alternate r
  | 'e' => scientificText places d.alternate r
  | 'g' => generalText places d.alternate r
  | _ =>
      hexadecimalText dialect.precision.bits dialect.leadingBits d.precision d.alternate m e

/-- A number with a fraction. -/
def floating (d : Directive) (dialect : Dialect) (x : Floating) : Text :=
  let text := match x with
    | .finite negative m e =>
        let text := d.unsigned dialect m e
        if d.kind.toLower = 'a' then d.field true (d.sign negative ++ text.take 2) (text.drop 2)
        else d.field true (d.sign negative) text
    | .infinite negative => d.field false (d.sign negative) "inf".toList
    | .noNumber negative => d.field false (d.sign negative) "nan".toList
  if d.kind.isUpper then text.map Char.toUpper else text

/-- A text, or as much of it as is asked for. -/
def text (d : Directive) (text : Text) : Text :=
  padded d.left ' ' d.width ((d.precision.map text.take).getD text)

/-- Whether the flags of a directive go with its letter. -/
def suits (d : Directive) : Bool :=
  match d.kind with
  | 'd' | 'i' | 'u' => !d.alternate
  | 'f' | 'F' | 'g' | 'G' => true
  | 'e' | 'E' | 'a' | 'A' | 'o' | 'x' | 'X' => !d.grouped
  | 'c' => !d.alternate && !d.zero && !d.grouped && d.precision.isNone
  | 's' => !d.alternate && !d.zero && !d.grouped
  | _ => false

end Directive

/-! ## Printing -/

/-- What printing comes to. -/
structure Printed where
  text : Text := []
  /-- What is said of arguments. -/
  complaints : List Text := []
  ended : PrintEnd := .complete
  /-- The arguments that are left. -/
  rest : List Text := []

/-- Printing with something in front. -/
def Printed.after (text : Text) (complaints : List Text) (printed : Printed) : Printed :=
  { printed with text := text ++ printed.text, complaints := complaints ++ printed.complaints }

/-- A number in a directive: its value, what is said of it, and what is left of
the format and of the arguments. A star stands for the next argument. -/
def directiveNumber (dialect : Dialect) (text : Text) (arguments : List Text) :
    Option Int × List Text × Text × List Text :=
  match text with
  | '*' :: rest =>
      match arguments with
      | [] => (some 0, [], rest, [])
      | argument :: arguments =>
          let (n, complaints) := dialect.signed argument
          (some n, complaints, rest, arguments)
  | _ =>
      let digits := text.takeWhile Char.isDigit
      (if digits = [] then none else some (valueOf 10 digits : Nat), [], text.drop digits.length,
        arguments)

/-- Prints one argument. -/
def Directive.print (dialect : Dialect) (d : Directive) (argument : Option Text) :
    Text × List Text × PrintEnd :=
  let given := argument.getD []
  match d.kind with
  | 's' => (d.text given, [], .complete)
  | 'q' => (if argument.isNone then [] else shellQuoted given, [], .complete)
  | 'c' => (padded d.left ' ' d.width [given.headD '\u0000'], [], .complete)
  | 'b' =>
      let (text, ended) := unescaped dialect.argumentEscapes 0 given
      (d.text text, [], ended)
  | 'd' | 'i' =>
      let (n, complaints) := dialect.signed given
      (d.field d.precision.isNone (d.sign (n < 0)) (digitsOf 10 (d.precision.getD 1) n.natAbs),
        complaints, .complete)
  | 'u' | 'o' | 'x' | 'X' =>
      let (n, complaints) := dialect.natural given
      (d.natural n, complaints, .complete)
  | _ =>
      let (x, complaints) := dialect.floating given
      (d.floating dialect x, complaints, .complete)

/-- The letters of directives that every program knows. -/
def directiveLetters : Text := "sbcdiuoxXaAeEfFgG".toList

/-- The greatest width. -/
def maxWidth : Nat := Nat.pow 2 31 - 1

/-- Prints arguments by a format, once, with so many characters of the format at
most. -/
def printOnce (dialect : Dialect) : (fuel : Nat) → Text → List Text → Printed
  | 0, _, arguments => { rest := arguments }
  | _, [], arguments => { rest := arguments }
  | fuel + 1, '%' :: '%' :: rest, arguments =>
      (printOnce dialect fuel rest arguments).after ['%'] []
  | fuel + 1, '%' :: front, arguments =>
      let printed (d : Directive) (complaints : List Text) (rest : Text) (arguments : List Text) :
          Printed :=
        let (text, more, ended) := d.print dialect arguments.head?
        if ended = .complete then
          (printOnce dialect fuel rest arguments.tail).after text (complaints ++ more)
        else
          { text := text, complaints := complaints ++ more, ended := ended, rest := arguments.tail }
      let bare? := match front with
        | 'b' :: rest => some ('b', rest)
        | 'q' :: rest => some ('q', rest)
        | _ => none
      match dialect.exact, bare? with
      | true, some (kind, rest) => printed { kind := kind } [] rest arguments
      | _, _ =>
          let (d, rest) := flags dialect {} front
          let (width, said, rest, arguments) := directiveNumber dialect rest arguments
          let (precision, saidMore, rest, arguments) := match rest with
            | '.' :: rest =>
                let (n, said, rest, arguments) := directiveNumber dialect rest arguments
                (some (n.getD 0), said, rest, arguments)
            | _ => (none, [], rest, arguments)
          let rest := if dialect.exact then rest.dropWhile ("hlLjtz".toList.contains ·) else rest
          let d := { d with
            left := d.left || width.any (· < 0)
            width := (width.getD 0).natAbs
            precision := precision.bind fun n => if n < 0 then none else some n.toNat }
          let refused (why : Text) : Printed :=
            { complaints := said ++ saidMore, ended := .refused why, rest := arguments }
          match rest with
          | [] => refused (dialect.unfinished ('%' :: front))
          | kind :: rest =>
              let d := { d with kind := kind }
              let written := '%' :: front.take (front.length - rest.length)
              if !directiveLetters.contains kind ∨ (dialect.exact ∧ !d.suits) then
                refused (dialect.unknown written)
              else if maxWidth < d.width then refused (dialect.unknown written)
              else printed d (said ++ saidMore) rest arguments
  | fuel + 1, '\\' :: rest, arguments =>
      match meaning? dialect.escapes rest with
      | some (.text length text) =>
          (printOnce dialect fuel (rest.drop length) arguments).after text []
      | some .stop => { ended := .stopped, rest := arguments }
      | some (.refused why) => { ended := .refused why, rest := arguments }
      | none =>
          let plain := if dialect.exact then rest.take 1 else []
          (printOnce dialect fuel (rest.drop plain.length) arguments).after ('\\' :: plain) []
  | fuel + 1, c :: rest, arguments => (printOnce dialect fuel rest arguments).after [c] []

/-- Prints arguments by a format, which is used at most so many times, until no
argument is left. -/
def printAll (dialect : Dialect) (format : Text) : (fuel : Nat) → List Text → Printed
  | 0, _ => {}
  | fuel + 1, arguments =>
      let done := printOnce dialect (format.length + 1) format arguments
      if done.ended ≠ .complete ∨ done.rest = [] ∨ done.rest.length = arguments.length then done
      else (printAll dialect format fuel done.rest).after done.text done.complaints

/-- Prints arguments by a format. -/
def Dialect.print (dialect : Dialect) (format : Text) (arguments : List Text) : Printed :=
  printAll dialect format (arguments.length + 1) arguments

end GoldenFiles.Program
