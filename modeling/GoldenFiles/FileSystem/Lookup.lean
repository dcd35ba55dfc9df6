import GoldenFiles.FileSystem.Basic
import GoldenFiles.FileSystem.Error

/-!
# Finding what a path names

A path is followed step by step from the root or the current directory. Every
step but the last has to be a directory, and a symbolic link on the way is
replaced by the path it holds. Links may lead to links, so their number on one
walk is bounded, and the bound is what makes the walk end: between two links
the rest of the path only gets shorter.

The walk tells apart an entry that is there from one that could be made: an
absent last name in a directory that exists is not an error yet, because for
whoever creates files it is the ordinary case.
-/

namespace GoldenFiles

/-- What a walk finds. -/
inductive Found where
  /-- The entry and its location. -/
  | entry (loc : Location) (entry : Entry)
  /-- No entry, but the directory that would hold it. -/
  | absent (parent : Location) (name : Name)
  deriving DecidableEq, Repr

namespace FileSystem

/-- The longest name that a directory can hold. -/
def maxNameLength : Nat := 255

/-- Paths have to be shorter than this. -/
def maxPathLength : Nat := 4096

/-- How many links one walk may follow. -/
def maxLinks : Nat := 40

/-- Whether a path ends in a slash, and so must name a directory. -/
def endsInSlash (p : Path) : Bool := p.bytes.getLast? = some Path.slash

/-- The names of a path that a walk looks at. A slash at the end asks for a
directory, as a dot would. -/
def steps (p : Path) : List Name :=
  p.pieces.filter (· ≠ []) ++ if endsInSlash p then [Path.dot] else []

/-- Where the walk along a path starts. -/
def start (here : Location) (p : Path) : Location := if p.isAbsolute then [] else here

/-- Walks along names from a directory; `via` goes on behind a link. The last
link is followed or not, as asked. -/
def walkWith (fs : FileSystem) (follow : Bool)
    (via : Location → List Name → Except Errno Found) :
    Location → List Name → Except Errno Found
  | dir, [] => .ok (.entry dir .directory)
  | dir, name :: rest =>
      if name = Path.dot then walkWith fs follow via dir rest
      else if name = Path.dotDot then walkWith fs follow via dir.tail rest
      else if maxNameLength < name.length then .error .nameTooLong
      else
        match fs.entry? (name :: dir) with
        | none => if rest = [] then .ok (.absent dir name) else .error .noEntry
        | some .directory => walkWith fs follow via (name :: dir) rest
        | some (.file content executable) =>
            if rest = [] then .ok (.entry (name :: dir) (.file content executable))
            else .error .notDirectory
        | some (.link target) =>
            if rest = [] ∧ follow = false then .ok (.entry (name :: dir) (.link target))
            else via (start dir target) (steps target ++ rest)

/-- Walks along names, following at most a number of links. -/
def walk (fs : FileSystem) (follow : Bool) : Nat → Location → List Name → Except Errno Found
  | 0 => walkWith fs follow fun _ _ => .error .tooManyLinks
  | links + 1 => walkWith fs follow (walk fs follow links)

/-- Finds what a path names; a link at its end is followed or not, as asked. -/
def find (fs : FileSystem) (follow : Bool) (p : Path) : Except Errno Found :=
  if p.bytes = [] then .error .noEntry
  else if maxPathLength ≤ p.bytes.length then .error .nameTooLong
  else walk fs follow maxLinks (start fs.here p) (steps p)

/-- The entry that a path names and its location, links followed. -/
def stat (fs : FileSystem) (p : Path) : Except Errno (Location × Entry) :=
  match fs.find true p with
  | .ok (.entry loc e) => .ok (loc, e)
  | .ok (.absent ..) => .error .noEntry
  | .error e => .error e

/-- Whether a path names a directory. -/
def isDirectory (fs : FileSystem) (p : Path) : Bool :=
  match fs.stat p with
  | .ok (_, .directory) => true
  | _ => false

/-- The content of the file that a path names. -/
def read (fs : FileSystem) (p : Path) : Except Errno Bytes :=
  match fs.stat p with
  | .ok (_, .file content _) => .ok content
  | .ok (_, .directory) => .error .isDirectory
  | .ok (_, .link _) => .error .tooManyLinks
  | .error e => .error e

end FileSystem

end GoldenFiles
