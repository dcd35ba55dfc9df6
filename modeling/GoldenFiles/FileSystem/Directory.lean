import GoldenFiles.Error
import GoldenFiles.FileSystem.Access

/-!
# Listing a directory through its links

A listing shows every entry of a directory as what it is behind all links.
Whoever lists through links has to be able to follow each of them: one that
leads nowhere, in a circle, or back to the listed directory itself is an error
of the whole listing, whatever its name.
-/

namespace GoldenFiles

/-- An entry in a listing. -/
structure Listed where
  name : Name
  /-- The directory's path with the name appended. -/
  path : Path
  /-- What is there, links followed. -/
  entry : Entry
  deriving DecidableEq, Repr

namespace FileSystem

/-- Follows one entry of a listing of the directory at `loc`. -/
def follow (fs : FileSystem) (dir : Path) (loc : Location) (name : Name) (e : Entry) :
    Except ListingError Listed :=
  let path := dir.join ⟨name⟩
  match e with
  | .link _ =>
      match fs.stat path with
      | .error reason => .error (.entry path (.os reason))
      | .ok (target, e) => if target = loc then .error (.loop path dir) else .ok ⟨name, path, e⟩
  | e => .ok ⟨name, path, e⟩

/-- The entries of a directory, in listing order. -/
def list (fs : FileSystem) (dir : Path) : Except ListingError (List Listed) :=
  match dir.access (fs.stat dir) with
  | .error e => .error (.directory e)
  | .ok (loc, .directory) => (fs.children loc).mapM fun (name, e) => fs.follow dir loc name e
  | .ok _ => .error (.directory (.described "not a directory"))

end FileSystem

end GoldenFiles
