import GoldenFiles.FileSystem.Access

/-!
# Changing a file system

Making a directory, opening a file for writing and making all missing
directories of a path are the only ways in which a run touches the file system
itself. Each says what it fails with, and making directories can fail halfway:
then those already made stay, so it answers with the file system in either
case.
-/

namespace GoldenFiles.FileSystem

/-- The path without the slashes at its end; the root stays. -/
def withoutFinalSlashes (p : Path) : Path :=
  match (p.bytes.reverse.dropWhile (· = Path.slash)).reverse with
  | [] => p
  | bytes => ⟨bytes⟩

/-- Makes a directory where there is no entry yet. -/
def makeDirectory (fs : FileSystem) (p : Path) : Except Errno FileSystem :=
  match fs.find false (withoutFinalSlashes p) with
  | .ok (.absent parent name) => .ok (fs.put (name :: parent) .directory)
  | .ok (.entry ..) => .error .fileExists
  | .error e => .error e

/-- Makes the first of some directories, each inside the next; those that are
missing are made from the last one on. -/
def makeNested (fs : FileSystem) : List Path → Except IoError Unit × FileSystem
  | [] => (.error (.described "failed to create whole tree"), fs)
  | dir :: above =>
      if dir.bytes = [] then (.ok (), fs)
      else
        match dir.access (fs.makeDirectory dir) with
        | .ok fs => (.ok (), fs)
        | .error (.os .noEntry) =>
            match fs.makeNested above with
            | (.error e, fs) => (.error e, fs)
            | (.ok (), fs) =>
                match fs.makeDirectory dir with
                | .ok fs => (.ok (), fs)
                | .error e => (if fs.isDirectory dir then .ok () else .error (.os e), fs)
        | .error e => (if fs.isDirectory dir then .ok () else .error e, fs)

/-- Makes a directory and all that are missing above it. -/
def makeDirectories (fs : FileSystem) (p : Path) : Except IoError Unit × FileSystem :=
  fs.makeNested p.ancestors

/-- Opens a file for writing, as `create` does, along a path from a directory;
`via` goes on behind a link. -/
def createWith (fs : FileSystem) (via : Location → Path → Except Errno (Location × FileSystem))
    (here : Location) (p : Path) : Except Errno (Location × FileSystem) :=
  let names := p.pieces.filter (· ≠ [])
  match names.getLast? with
  | none => .error .isDirectory
  | some name =>
      match fs.walk true maxLinks (start here p) names.dropLast with
      | .error e => .error e
      | .ok (.absent ..) => .error .noEntry
      | .ok (.entry _ (.file ..)) | .ok (.entry _ (.link _)) => .error .notDirectory
      | .ok (.entry dir .directory) =>
          if endsInSlash p ∨ name = Path.dot ∨ name = Path.dotDot then .error .isDirectory
          else if maxNameLength < name.length then .error .nameTooLong
          else
            let loc := name :: dir
            match fs.entry? loc with
            | none => .ok (loc, fs.put loc (.file [] false))
            | some (.file _ executable) => .ok (loc, fs.put loc (.file [] executable))
            | some .directory => .error .isDirectory
            | some (.link target) => via dir target

/-- Opens a file for writing along a path, following at most a number of links
at its end. -/
def createVia (fs : FileSystem) : Nat → Location → Path → Except Errno (Location × FileSystem)
  | 0 => fs.createWith fun _ _ => .error .tooManyLinks
  | links + 1 => fs.createWith (createVia fs links)

/-- Opens a file for writing: empties the one that is there, or makes it. The
location is what later writes go to. A path that ends in a slash can only name
a directory, which cannot be written, and so can one behind a link that does. -/
def create (fs : FileSystem) (p : Path) : Except Errno (Location × FileSystem) :=
  if p.bytes = [] then .error .noEntry
  else if maxPathLength ≤ p.bytes.length then .error .nameTooLong
  else fs.createVia maxLinks fs.here p

/-- Sets the content of a file that is open at a location. What was removed in
the meantime stays removed. -/
def fill (fs : FileSystem) (loc : Location) (content : Bytes) : FileSystem :=
  match fs.entry? loc with
  | some (.file _ executable) => fs.put loc (.file content executable)
  | _ => fs

/-- Writes a whole file. -/
def write (fs : FileSystem) (p : Path) (content : Bytes) : Except Errno FileSystem :=
  (fs.create p).map fun (loc, fs) => fs.fill loc content

/-- Marks a file as a program, or as none. -/
def setExecutable (fs : FileSystem) (p : Path) (executable : Bool) : FileSystem :=
  match fs.stat p with
  | .ok (loc, .file content _) => fs.put loc (.file content executable)
  | _ => fs

/-- Makes a symbolic link where there is no entry yet. -/
def makeLink (fs : FileSystem) (p target : Path) : Except Errno FileSystem :=
  match fs.find false p with
  | .ok (.absent parent name) => .ok (fs.put (name :: parent) (.link target))
  | .ok (.entry ..) => .error .fileExists
  | .error e => .error e

/-- Moves an entry and all that is below it to where a path leads. A file that
is there is replaced. -/
def move (fs : FileSystem) (loc : Location) (target : Path) : Except Errno FileSystem :=
  let moved (goal : Location) : FileSystem :=
    let below := fs.entries.filter fun pair => loc.isSuffixOf pair.1
    below.foldl (fun fs (old, e) => fs.put (old.take (old.length - loc.length) ++ goal) e)
      ((fs.removeBelow loc).removeBelow goal)
  match fs.find false (withoutFinalSlashes target) with
  | .ok (.absent parent name) => .ok (moved (name :: parent))
  | .ok (.entry _ .directory) => .error .isDirectory
  | .ok (.entry goal _) => if goal = loc then .ok fs else .ok (moved goal)
  | .error e => .error e

/-- Removes what a path names, and all that is below it. -/
def remove (fs : FileSystem) (p : Path) : Except Errno FileSystem :=
  match fs.find false p with
  | .ok (.entry loc _) => .ok (fs.removeBelow loc)
  | .ok (.absent ..) => .error .noEntry
  | .error e => .error e

end GoldenFiles.FileSystem
