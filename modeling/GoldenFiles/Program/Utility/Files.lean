import GoldenFiles.Program.Number
import GoldenFiles.Program.Utility.Basic

/-!
# Programs for files

They make, copy, move, mark, list and remove files and directories.
-/

namespace GoldenFiles.Program.Utility

/-- What is said when something cannot be done to a file. -/
def failure (p : Process) (name : String) (what : String) (file : Text) (e : Errno) :
    Bool × Process :=
  (false, p.complain name (ofString what ++ file ++ [':', ' '] ++ ofString e.message))

/-- A program with options that has something to do with files. -/
def fileProgram (known : Options) (name : String) (run : Text → Utility) : Utility :=
  known.program name fun letters names p =>
    if names = [] ∧ !(name = "rm" ∧ letters.contains 'f') then
      (1, hint name (p.complain name (ofString "missing operand")))
    else run letters names p

/-- Makes directories, with those above them if asked. -/
def mkdir : Utility := fileProgram { letters := "pv", words := [("parents", "p")] } "mkdir"
  fun letters names p =>
  let make (name : Text) (p : Process) : Bool × Process :=
    if letters.contains 'p' then
      match p.files.makeDirectories (pathOf name) with
      | (.ok (), files) => (true, p.withFiles files)
      | (.error (.os e), files) =>
          failure (p.withFiles files) "mkdir" "cannot create directory " (quoted name) e
      | (.error _, files) => (false, p.withFiles files)
    else
      match p.files.makeDirectory (pathOf name) with
      | .ok files => (true, p.withFiles files)
      | .error e => failure p "mkdir" "cannot create directory " (quoted name) e
  each make names p

/-- Removes files, and directories with all that is in them if asked. -/
def rm : Utility := fileProgram
  { letters := "rRfdv", words := [("recursive", "r"), ("force", "f")] } "rm" fun letters names p =>
  let whole := letters.contains 'r' || letters.contains 'R'
  let force := letters.contains 'f'
  let remove (name : Text) (p : Process) : Bool × Process :=
    let refuse (e : Errno) : Bool × Process :=
      failure p "rm" "cannot remove " (singleQuoted name) e
    let last := ((pathOf name).pieces.filter (· ≠ [])).getLast?
    match p.files.find false (pathOf name) with
    | .ok (.entry _ .directory) =>
        if !whole then refuse .isDirectory
        else if last = some Path.dot ∨ last = some Path.dotDot then
          (false, p.complain "rm"
            (ofString "refusing to remove '.' or '..' directory: skipping " ++ singleQuoted name))
        else
          match p.files.remove (pathOf name) with
          | .ok files => (true, p.withFiles files)
          | .error e => refuse e
    | .ok (.entry loc _) => (true, p.withFiles (p.files.removeBelow loc))
    | .ok (.absent ..) => if force then (true, p) else refuse .noEntry
    | .error e => if force then (true, p) else refuse e
  each remove names p

/-- Removes directories that are empty. -/
def rmdir : Utility := fileProgram { letters := "pv" } "rmdir" fun _ => each fun name p =>
  let refuse (text : String) : Bool × Process :=
    (false, p.complain "rmdir"
      (ofString "failed to remove " ++ singleQuoted name ++ [':', ' '] ++ ofString text))
  match p.files.find false (pathOf name) with
  | .ok (.entry loc .directory) =>
      if p.files.children loc = [] then (true, p.withFiles (p.files.removeBelow loc))
      else refuse "Directory not empty"
  | .ok (.entry ..) => refuse Errno.notDirectory.message
  | .ok (.absent ..) => refuse Errno.noEntry.message
  | .error e => refuse e.message

/-- Makes files that are not there yet. -/
def touch : Utility := fileProgram { letters := "acm" } "touch" fun _ => each fun name p =>
  match p.files.stat (pathOf name) with
  | .ok _ => (true, p)
  | .error _ =>
      match p.files.create (pathOf name) with
      | .ok (_, files) => (true, p.withFiles files)
      | .error e => failure p "touch" "cannot touch " (singleQuoted name) e

/-- Where something goes that is put under a name: into the directory of that
name, or to the name itself. -/
def destination (p : Process) (source target : Text) : Path :=
  match p.files.isDirectory (pathOf target), (pathOf source).fileName? with
  | true, some name => (pathOf target).join ⟨name⟩
  | _, _ => pathOf target

/-- Whether two paths lead to the same place. -/
def leadsBack (files : FileSystem) (source target : Path) : Bool :=
  match files.stat source, files.stat target with
  | .ok (a, _), .ok (b, _) => a = b
  | _, _ => false

/-- Copies a file. -/
def copy (source target : Text) (p : Process) : Nat × Process :=
  let failed (what : String) (file : Text) (e : Errno) : Nat × Process :=
    let (_, p) := failure p "cp" what (singleQuoted file) e
    (1, p)
  let goal := destination p source target
  let names := singleQuoted source ++ ofString " and " ++ singleQuoted target
  match p.readPath source, leadsBack p.files (pathOf source) goal with
  | .error .isDirectory, _ =>
      (1, p.complain "cp" (ofString "-r not specified; omitting directory " ++ singleQuoted source))
  | .error e, _ => failed "cannot stat " source e
  | .ok _, true => (1, p.complain "cp" (names ++ ofString " are the same file"))
  | .ok content, false =>
      match p.openPath .writing (ofBytes goal.bytes) with
      | .error e => failed "cannot create regular file " target e
      | .ok (number, opened) =>
          match (opened.connect 1 (some number)).write 1 content with
          | .ok after => (0, { after with channels := p.channels }.forget p.nextHandle)
          | .error e => failed "error writing " target e

/-- Copies a file. -/
def cp : Utility := fileProgram { letters := "fpv" } "cp" fun _ names p =>
  match names with
  | [source, target] => copy source target p
  | _ => (1, p.complain "cp" (ofString "missing destination file operand"))

/-- Renames a file or a directory. -/
def rename (source target : Text) (p : Process) : Nat × Process :=
  let failed (what : String) (names : Text) (e : Errno) : Nat × Process :=
    let (_, p) := failure p "mv" what names e
    (1, p)
  match p.files.find false (pathOf source) with
  | .ok (.entry loc _) =>
      let goal := destination p source target
      match p.files.move loc goal with
      | .ok files =>
          match files.find false (FileSystem.withoutFinalSlashes goal) with
          | .ok (.entry new _) => (0, p.moved files loc new)
          | _ => (0, p.withFiles files)
      | .error e =>
          failed "cannot move " (singleQuoted source ++ ofString " to " ++ singleQuoted target) e
  | .ok (.absent ..) => failed "cannot stat " (singleQuoted source) .noEntry
  | .error e => failed "cannot stat " (singleQuoted source) e

/-- Renames a file or a directory. -/
def mv : Utility := fileProgram { letters := "fv" } "mv" fun _ names p =>
  match names with
  | [source, target] => rename source target p
  | _ => (1, p.complain "mv" (ofString "missing destination file operand"))

/-- Makes a symbolic link. -/
def ln : Utility := fileProgram { letters := "sfn" } "ln" fun letters names p =>
  match letters.contains 's', names with
  | true, [target, name] =>
      let p := if letters.contains 'f' then
          p.withFiles ((p.files.remove (pathOf name)).toOption.getD p.files)
        else p
      match p.files.makeLink (destination p target name) (pathOf target) with
      | .ok files => (0, p.withFiles files)
      | .error e =>
          let (_, p) := failure p "ln" "failed to create symbolic link " (singleQuoted name) e
          (1, p)
  | _, _ => (1, p.complain "ln" (ofString "missing file operand"))

/-- Whether a file can be run after a change to its mode was made, if the change
makes sense. Whoever runs it may do all that anyone may. -/
def runnableAfter? (change : Text) (before : Bool) : Option Bool :=
  if change ≠ [] ∧ change.all (isDigitOf 8) then some (change.any fun c => c.toNat % 2 = 1)
  else
    (Separated.split ',' change).foldl (fun state? step => do
      let state ← state?
      let who := step.takeWhile ("ugoa".toList.contains ·)
      let whole := who = [] || who.contains 'a' || "ugo".toList.all who.contains
      match step.drop who.length with
      | operation :: rights =>
          let named := rights.contains 'x'
          if !rights.all ("rwxXst".toList.contains ·) then none
          else if operation = '+' then some (state || named)
          else if operation = '-' then some (state && !(named && whole))
          else if operation = '=' then some (named || (state && !whole))
          else none
      | [] => none) (some before)

/-- Marks files as programs, or as none. -/
def chmod : Utility := fun arguments p =>
  match arguments with
  | [] => (1, hint "chmod" (p.complain "chmod" (ofString "missing operand")))
  | mode :: names =>
      each (fun name p =>
        match p.files.stat (pathOf name) with
        | .error e => failure p "chmod" "cannot access " (singleQuoted name) e
        | .ok (_, entry) =>
            let before := match entry with
              | .file _ executable => executable
              | _ => true
            match runnableAfter? mode before with
            | some after => (true, p.withFiles (p.files.setExecutable (pathOf name) after))
            | none => (false, p.complain "chmod" (ofString "invalid mode: " ++ quoted mode)))
        names p

/-- The names in a directory as a listing shows them: in order, without those
that begin with a dot. -/
def listed (files : FileSystem) (dir : Location) : List Text :=
  let names := (files.children dir).map fun (name, _) => ofBytes name
  sortedBy id (names.filter (·.head? ≠ some '.'))

/-- Lists directories. -/
def ls : Utility := Options.program { letters := "1a" } "ls" fun _ names p =>
  let lines (texts : List Text) : Text := texts.flatMap (· ++ ['\n'])
  let list (name : Text) (p : Process) : Bool × Process :=
    match p.files.stat (pathOf name) with
    | .ok (loc, .directory) => (true, p.tell 1 (lines (listed p.files loc)))
    | .ok _ => (true, p.tell 1 (lines [name]))
    | .error e => failure p "ls" "cannot access " (singleQuoted name) e
  let (status, p) := each list (if names = [] then [['.']] else names) p
  (2 * status, p)

/-- Prints the current directory. -/
def pwd : Utility := fun _ p =>
  printing "pwd" 0 (ofBytes (FileSystem.pathOf p.files.here).bytes ++ ['\n']) p

end GoldenFiles.Program.Utility
