import GoldenFiles.Shell.Builtin.Basic
import GoldenFiles.Shell.Pattern

/-!
# Commands that read

One reads a line and takes it apart, the other one takes options off arguments,
one at a time.
-/

namespace GoldenFiles.Shell

open Program (Text ofString)

/-! ## Lines -/

/-- Reads a line, and those that are joined to it; at most `fuel` of them. -/
def joinedLine (raw : Bool) : (fuel : Nat) → Program.Process → Text × Bool × Program.Process
  | 0, p => ([], false, p)
  | fuel + 1, p =>
      let (line, ended, p) := p.readLine 0
      let backslashes := (line.reverse.takeWhile (· = '\\')).length
      if !raw ∧ ended ∧ backslashes % 2 = 1 then
        let (more, ended, p) := joinedLine raw fuel p
        (line.dropLast ++ more, ended, p)
      else (line, ended, p)

/-- A line with its backslashes carried out; a character behind one separates
nothing. -/
def unslashed : Text → List Marked
  | [] => []
  | '\\' :: c :: rest => (c, true) :: unslashed rest
  | ['\\'] => []
  | c :: rest => (c, false) :: unslashed rest

/-- The fields of a line for so many variables. The last one gets the rest; if
that is a field with what separates it from nothing, only the field. -/
def lineFields (separators : Text) : (count : Nat) → List Marked → List Text
  | 0, _ => []
  | count + 1, line =>
      let separates : Marked → Bool := fun (c, kept) => !kept && separators.contains c
      let isBlank : Marked → Bool := fun (c, kept) =>
        separates (c, kept) && (c = ' ' || c = '\t' || c = '\n')
      let line := line.dropWhile isBlank
      let field := line.takeWhile (!separates ·)
      let rest := (line.drop field.length).dropWhile isBlank
      let rest := match rest with
        | mark :: more => if separates mark then more.dropWhile isBlank else rest
        | [] => []
      if 0 < count then field.map Prod.fst :: lineFields separators count rest
      else if rest = [] then [field.map Prod.fst]
      else [((line.reverse.dropWhile isBlank).reverse).map Prod.fst]

/-- Reads a line into variables. -/
def readBuiltin : Builtin := withOptions "p:r" fun given names s =>
  if names = [] then s.giveUp (ofString "arg count")
  else
    let raw := given.has 'r'
    let steps := ((s.process.unread 0).toOption.getD []).length + 1
    let (line, ended, process) := joinedLine raw steps s.process
    let line := line.filter (· ≠ '\u0000')
    let marked := if raw then line.map (·, false) else unslashed line
    let fields := lineFields s.separators names.length marked
    let s := { s with process := process }
    let s : State :=
      (names.zip fields).foldl (fun s (name, field) => s.setNamed name field) s
    if s.flow = .next then s.done (if ended then 0 else 1) else s

/-! ## Options -/

/-- What the next option of arguments is. -/
structure NextOption where
  /-- The letter, a question mark for one that is not known, or a colon for one
  whose argument is missing. -/
  letter : Char := '?'
  /-- The argument; none takes the variable for it away. -/
  argument : Option Text := some []
  /-- What is said about the option. -/
  complaint : Text := []
  place : OptionPlace
  done : Bool := false

/-- Takes a letter off an argument, of which some is left; `next` is the number of
the next argument, and `after` are the arguments from there on. -/
def takeOption (known : Text) (c : Char) (left : Text) (length next : Nat) (after : List Text) :
    NextOption :=
  let silent := known.head? = some ':'
  let here : OptionPlace := { index := next, offset := some (length - left.length) }
  let refused (letter : Char) (why : String) (place : OptionPlace) : NextOption :=
    if silent then { letter := letter, argument := some [c], place := place }
    else { argument := none, complaint := ofString why, place := place }
  match (if c = ':' then [] else known.dropWhile (· ≠ c)) with
  | [] => refused '?' ("Illegal option -" ++ c.toString ++ "\n") here
  | _ :: ':' :: _ =>
      match left, after with
      | _ :: _, _ => { letter := c, argument := some left, place := { index := next } }
      | [], argument :: _ =>
          { letter := c, argument := some argument, place := { index := next + 1 } }
      | [], [] => refused ':' ("No arg for -" ++ c.toString ++ " option\n") { index := next }
  | _ => { letter := c, place := here }

/-- The next option of arguments. -/
def nextOption (known : Text) (arguments : List Text) (place : OptionPlace) : NextOption :=
  let rest := arguments.drop (place.index - 1)
  let ending (index : Nat) : NextOption :=
    { argument := none, place := { index := index }, done := true }
  let begun := match place.offset, arguments[place.index - 2]? with
    | some offset, some word => if place.index ≤ 1 then [] else word.drop offset
    | _, _ => []
  match begun with
  | c :: left =>
      takeOption known c left ((arguments[place.index - 2]?).getD []).length place.index rest
  | [] =>
      match rest with
      | ['-', '-'] :: _ => ending (place.index + 1)
      | ('-' :: c :: left) :: after =>
          takeOption known c left (left.length + 2) (place.index + 1) after
      | _ => ending place.index

/-- Takes the next option off arguments. -/
def getopts : Builtin := withOptions "" fun _ words s =>
  match words with
  | known :: name :: given =>
      let arguments := if given = [] then s.arguments else given
      let place := if arguments.length + 1 < s.optionPlace.index then {} else s.optionPlace
      let next := nextOption known arguments place
      let s := s.tell next.complaint
      let argumentName := "OPTARG".toList
      let s := match next.done, next.argument with
        | true, _ => s
        | false, some argument => s.set argumentName argument
        | false, none => s.unset argumentName
      let s := s.rebind State.optionIndexName fun b =>
        { b with value := some (decimal next.place.index) }
      let s := { s with optionPlace := next.place }
      let s := s.setNamed name [next.letter]
      if s.flow = .next then s.done (if next.done then 1 else 0) else s
  | _ => s.giveUp (ofString "Usage: getopts optstring var [arg...]")

end GoldenFiles.Shell
