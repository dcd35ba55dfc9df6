import GoldenFiles.FileSystem.Directory
import GoldenFiles.Host
import GoldenFiles.Naming.Classification
import GoldenFiles.Sorting

/-!
# Discovering fixtures

The inputs of a run are the regular files directly in the fixture directory
whose names say so. Names that start like an input's and are not one are
collected beside them, so that a slip of the pen is seen. Both lists come in an
order of their own, by identifier and by path, so that the order in which the
directory happens to be listed does not show.
-/

namespace GoldenFiles

/-- An input that will be run. -/
structure Fixture where
  id : CaseId
  input : Path
  deriving DecidableEq, Repr

/-- A file that carries the input marker and does not follow the naming rule. -/
structure Rejected where
  path : Path
  reason : String
  deriving DecidableEq, Repr

/-- What a fixture directory holds. -/
structure Discovery where
  /-- By identifier. -/
  fixtures : List Fixture
  /-- By path. -/
  rejected : List Rejected
  deriving DecidableEq, Repr

namespace Discovery

/-- The fixture that a listed entry is, or the rejection it earns. Directories
and names that are not text are neither. -/
def judge (scheme : Scheme) (listed : Listed) : Option (Fixture ⊕ Rejected) :=
  match listed.entry, Utf8.decode? listed.name with
  | .file .., some name =>
      match scheme.classify name with
      | .unrelated => none
      | .fixture id => some (.inl ⟨id, listed.path⟩)
      | .malformed why => some (.inr ⟨listed.path, why.message scheme⟩)
  | _, _ => none

/-- The fixtures and rejections among listed entries. -/
def ofListing (scheme : Scheme) (listing : List Listed) : Discovery :=
  let judged := listing.filterMap (judge scheme)
  { fixtures := sortedBy Fixture.id (judged.filterMap Sum.getLeft?)
    rejected := sortedBy Rejected.path (judged.filterMap Sum.getRight?) }

end Discovery

/-- What is said of a marker if names that begin with it cannot be matched. -/
def unmatched (marker why : String) : RunError :=
  .config ("input marker '" ++ marker ++ "' cannot be matched: " ++ why)

/-- Lists the inputs directly inside a directory. Whether names can be matched at
all turns out once the directory is known to be one, and before its entries are
followed. -/
def discover (fs : FileSystem) (dir : Path) (scheme : Scheme) (host : Host := {}) :
    Except RunError Discovery :=
  match fs.list dir, host.patternFault? scheme.inputMarker with
  | .error (.directory e), _ => .error (.discovery dir (.directory e))
  | _, some why => .error (unmatched scheme.inputMarker why)
  | .error e, none => .error (.discovery dir e)
  | .ok listing, none => .ok (Discovery.ofListing scheme listing)

end GoldenFiles
