import GoldenFiles.Text.Separated
import GoldenFiles.Text.Utf8

/-!
# Paths as text

A path is the bytes a caller wrote, and most of what happens to a path happens
to that text: a name is appended after one slash, the last component is cut
off, everything else stays as it was spelled. Pieces between slashes that mean
nothing (an empty one, a single dot) are skipped only where a component is
looked for. One dot does mean something: a relative path that begins with it
says so in its first component.
-/

namespace GoldenFiles

/-- The name of an entry in a directory. -/
abbrev Name := Bytes

/-- A path, as it was written. -/
structure Path where
  bytes : Bytes
  deriving DecidableEq, Repr, Inhabited

/-- One step of a path. -/
inductive Component where
  | root
  | current
  | parent
  | normal (name : Name)
  deriving DecidableEq, Repr

namespace Path

/-- The byte between two components. -/
def slash : UInt8 := 47

/-- The piece that stays where it is. -/
def dot : Name := [46]

/-- The piece that goes one directory up. -/
def dotDot : Name := [46, 46]

/-- The path that a text spells. -/
def ofString (text : String) : Path := ⟨Utf8.encode text⟩

/-- A path for a reader's eye. -/
def display (p : Path) : String := Utf8.decodeLossy p.bytes

/-- Whether a path starts at the root. -/
def isAbsolute (p : Path) : Bool := p.bytes.head? = some slash

/-- The pieces between the slashes. -/
def pieces (p : Path) : List Name := Separated.split slash p.bytes

/-- A piece that stands for no component wherever it is not the first. -/
def isIgnored (piece : Name) : Bool := piece = [] ∨ piece = dot

/-- The component of a piece that is not the first. -/
def component? (piece : Name) : Option Component :=
  if isIgnored piece then none
  else if piece = dotDot then some .parent
  else some (.normal piece)

/-- The component of the first piece, where a dot counts. -/
def firstComponent? (piece : Name) : Option Component :=
  if piece = dot then some .current else component? piece

/-- The steps of a path. -/
def components (p : Path) : List Component :=
  (if p.isAbsolute then [.root] else []) ++
    match p.pieces with
    | [] => []
    | first :: rest => (firstComponent? first).toList ++ rest.filterMap component?

/-- Whether two paths have the same steps. Two spellings of one directory that
need the file system to be told apart or together are not looked at here. -/
def Same (p q : Path) : Prop := p.components = q.components

instance (p q : Path) : Decidable (Same p q) := inferInstanceAs (Decidable (_ = _))

/-- The path that consists of a first piece and the ones after it. The root is
the one directory whose path ends in a slash. -/
def ofPieces (first : Name) (rest : List Name) : Path :=
  if first = [] ∧ rest = [] then ⟨[slash]⟩ else ⟨Separated.join slash (first :: rest)⟩

/-- The last component of a path and the text before it, without the pieces
around the cut that stand for nothing. The root and the empty path have none. -/
def splitLast? (p : Path) : Option (Path × Component) :=
  match p.pieces with
  | [] => none
  | first :: rest =>
      match rest.reverse.dropWhile isIgnored with
      | last :: before =>
          (component? last).map
            (ofPieces first (before.dropWhile isIgnored).reverse, ·)
      | [] => (firstComponent? first).map (⟨[]⟩, ·)

/-- The path without its last component. -/
def parent? (p : Path) : Option Path := p.splitLast?.map Prod.fst

/-- The last component, if it is a name. -/
def fileName? (p : Path) : Option Name :=
  match p.splitLast? with
  | some (_, .normal name) => some name
  | _ => none

/-- A path taken relative to another one: an absolute path replaces it, any
other is appended after one slash. -/
def join (p q : Path) : Path :=
  if q.isAbsolute then q
  else if p.bytes = [] ∨ p.bytes.getLast? = some slash then ⟨p.bytes ++ q.bytes⟩
  else ⟨p.bytes ++ slash :: q.bytes⟩

/-- The path with its last name replaced, or with the name appended where the
path does not end in one. -/
def withFileName (p : Path) (name : Path) : Path :=
  match p.splitLast? with
  | some (parent, .normal _) => parent.join name
  | _ => p.join name

/-- The paths of a path and of the directories above it, nearest first. -/
def ancestors (p : Path) : List Path :=
  upTo p.bytes.length p
where
  /-- At most `n` steps up; each is shorter, so the length of the text is enough. -/
  upTo : Nat → Path → List Path
    | 0, p => [p]
    | n + 1, p => p :: match p.parent? with
      | some parent => upTo n parent
      | none => []

end Path

namespace Component

/-- Components in order: the root first, then the relative steps, then names. -/
def rank : Component → Nat
  | .root => 0
  | .current => 1
  | .parent => 2
  | .normal _ => 3

/-- The order of components; names go by their bytes. -/
instance : Ord Component where
  compare
    | .normal a, .normal b => compare a b
    | a, b => compare a.rank b.rank

end Component

/-- Paths are ordered by their components. -/
instance : Ord Path where
  compare p q := compare p.components q.components

end GoldenFiles
