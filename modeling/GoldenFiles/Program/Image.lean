import GoldenFiles.Program.Utility.Table

/-!
# Finding programs

A name without a slash is looked for among the programs of the system; any
other is the path of a file. A file is run by the program that its first line
names, which may itself be such a file.
-/

namespace GoldenFiles.Program

/-- What is run. -/
inductive Image where
  | utility (run : Utility)
  | shell
  /-- Runs the program that its arguments name. -/
  | environment

/-- The program of the system with a name. -/
def Image.find? (name : Text) : Option Image :=
  if name = "sh".toList ∨ name = "dash".toList then some .shell
  else if name = "env".toList then some .environment
  else (Utility.find? name).map .utility

/-- The directories of the system. -/
def systemDirectories : List Path :=
  ["/", "/bin", "/usr", "/usr/bin", "/tmp", "/etc"].map Path.ofString

/-- The name of a program of the system that a path gives. -/
def systemName? (path : Path) : Option Text :=
  match path.pieces.filter (· ≠ []) with
  | [bin, name] =>
      if path.isAbsolute ∧ bin = Utf8.encode "bin" then some (ofBytes name) else none
  | [usr, bin, name] =>
      if path.isAbsolute ∧ usr = Utf8.encode "usr" ∧ bin = Utf8.encode "bin" then
        some (ofBytes name)
      else none
  | _ => none

/-- How many files in a row may name each other as their interpreters. -/
def maxInterpreters : Nat := 5

/-- How much of a file is looked at to find its interpreter. -/
def headLength : Nat := 256

/-- The interpreter that a file names, with an argument for it. -/
structure Interpreter where
  name : Text
  argument : Option Text := none
  deriving DecidableEq, Repr

/-- The interpreter that a line names: its first word, and all the rest of the
line as one argument. -/
def Interpreter.ofLine (line : Text) : Interpreter :=
  let isBlank (c : Char) : Bool := c = ' ' || c = '\t'
  let line := line.dropWhile isBlank
  let name := line.takeWhile (!isBlank ·)
  match line.drop name.length with
  | [] => ⟨name, none⟩
  | rest => ⟨name, some (rest.dropWhile isBlank)⟩

/-- The interpreter that the first line of a file names, if the file begins like
one that has an interpreter. Blanks at the end of the line do not count. A line
that goes on behind what is looked at is cut there, unless that cuts the
name. In a file that ends well before its first line does, all blanks count. -/
def interpreter? (content : Text) : Option Interpreter :=
  match content.take headLength with
  | '#' :: '!' :: head =>
      let isBlank (c : Char) : Bool := c = ' ' || c = '\t'
      let trimmed (line : Text) : Option Interpreter :=
        let line := (line.reverse.dropWhile isBlank).reverse
        if line.all isBlank then none else some (.ofLine line)
      let text := head.takeWhile (· ≠ '\u0000')
      if text.contains '\n' then trimmed (text.takeWhile (· ≠ '\n'))
      else
        match headLength - (text.length + 2) with
        | 0 => if (text.dropWhile isBlank).any isBlank then trimmed text.dropLast else none
        | 1 => trimmed text
        | _ => some (.ofLine text)
  | _ => none

/-- What is run for a path, and the arguments it gets before all others. Files in
`busy` are open for writing and cannot be run. -/
def imageAt (files : FileSystem) (busy : List Location) :
    (interpreters : Nat) → Text → Except Errno (Image × List Text)
  | 0, _ => .error .tooManyLinks
  | interpreters + 1, text =>
      let path := pathOf text
      match systemName? path with
      | some name =>
          match Image.find? name with
          | some image => if text.getLast? = some '/' then .error .notDirectory else .ok (image, [])
          | none => .error .noEntry
      | none =>
          if systemDirectories.any (·.Same path) then .error .permissionDenied
          else
            match files.stat path with
            | .error e => .error e
            | .ok (loc, .file content executable) =>
                if !executable then .error .permissionDenied
                else if loc ∈ busy then .error .textBusy
                else
                  match interpreter? (ofBytes content) with
                  | none => .error .execFormat
                  | some ⟨[], _⟩ => .error .permissionDenied
                  | some interpreter =>
                      (imageAt files busy interpreters interpreter.name).map
                        fun (image, before) =>
                          (image, before ++ interpreter.argument.toList ++ [text])
            | .ok _ => .error .permissionDenied

/-- What is run for the path of a program. -/
def image (p : Process) (path : Text) : Except Errno (Image × List Text) :=
  imageAt p.files p.openFiles maxInterpreters path

/-- The first of some paths that a program is at, be it one that only a shell can
run. What keeps a path from being run is told if it is not that nothing is
there. -/
def firstProgram (p : Process) : (why : Errno) → List Text → Except Errno Text
  | why, [] => .error why
  | why, path :: paths =>
      match image p path with
      | .ok _ | .error .execFormat => .ok path
      | .error .noEntry | .error .notDirectory => firstProgram p why paths
      | .error e => firstProgram p e paths

/-- The path of a program. A name without a slash is looked for in the directories
of a list. -/
def programPath (p : Process) (directories name : Text) : Except Errno Text :=
  if name.contains '/' then .ok name
  else if name = [] then .error .noEntry
  else if FileSystem.maxNameLength < name.length then .error .nameTooLong
  else if name = ['.'] ∨ name = ['.', '.'] then .error .permissionDenied
  else
    firstProgram p .noEntry ((Separated.split ':' directories).map fun directory =>
      if directory = [] then name else directory ++ '/' :: name)

/-- Where programs are looked for if nobody says where. -/
def usualDirectories : Text :=
  "/usr/local/sbin:/usr/local/bin:/usr/sbin:/usr/bin:/sbin:/bin".toList

end GoldenFiles.Program
