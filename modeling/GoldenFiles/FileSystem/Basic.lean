import GoldenFiles.Path.Basic

/-!
# A file system as a value

A file system is a finite map from locations to entries, and a current
directory. A location is the list of names from an entry up to the root, so the
directory that holds an entry is the tail of its location and going up is
taking the tail. The root is always there and always a directory.

The map is a list of pairs with distinct locations. Its order is the order in
which directories list their entries; nothing that this library reports may
depend on it. Two operations change the map, `put` and `removeBelow`, and both
are described completely by what `entry?` answers afterwards.

A file is at one location only, so there are no hard links; an entry is nothing
but a directory, a file or a symbolic link, so there are no devices and pipes; and
of all rights a file has only that it can be executed.
-/

namespace GoldenFiles

/-- Where an entry is: its name, the name of its directory, and so on upwards. -/
abbrev Location := List Name

/-- What is at a location. -/
inductive Entry where
  | directory
  | file (content : Bytes) (executable : Bool)
  | link (target : Path)
  deriving DecidableEq, Repr

/-- A finite map from locations to entries, seen from a current directory. -/
structure FileSystem where
  entries : List (Location × Entry)
  /-- The current directory, where relative paths start. -/
  here : Location
  distinct : (entries.map Prod.fst).Nodup

namespace FileSystem

/-- A file system without entries, at its root. -/
def empty : FileSystem := ⟨[], [], .nil⟩

/-- The entry at a location. -/
def entry? (fs : FileSystem) (loc : Location) : Option Entry :=
  if loc = [] then some .directory else fs.entries.lookup loc

/-- The map with the entry at one location replaced. -/
def replaced (loc : Location) (e : Entry) (entries : List (Location × Entry)) :
    List (Location × Entry) :=
  entries.map fun pair => if pair.1 = loc then (loc, e) else pair

theorem map_fst_replaced (loc : Location) (e : Entry) (entries : List (Location × Entry)) :
    (replaced loc e entries).map Prod.fst = entries.map Prod.fst := by
  induction entries with
  | nil => rfl
  | cons pair rest ih =>
      simp only [replaced, List.map_cons, List.map_map] at ih ⊢
      rw [ih]
      split <;> simp_all

/-- Sets the entry at a location: in its place if there was one, and behind all
others if not. -/
def put (fs : FileSystem) (loc : Location) (e : Entry) : FileSystem :=
  if h : loc ∈ fs.entries.map Prod.fst then
    { fs with
      entries := replaced loc e fs.entries
      distinct := by rw [map_fst_replaced]; exact fs.distinct }
  else
    { fs with
      entries := fs.entries ++ [(loc, e)]
      distinct := by
        rw [List.map_append, List.nodup_append]
        refine ⟨fs.distinct, by simp, ?_⟩
        intro a ha b hb hab
        simp only [List.map_cons, List.map_nil, List.mem_singleton] at hb
        exact h (hb ▸ hab ▸ ha) }

/-- Removes a location and all that is below it. -/
def removeBelow (fs : FileSystem) (loc : Location) : FileSystem :=
  { fs with
    entries := fs.entries.filter fun pair => !loc.isSuffixOf pair.1
    distinct := (List.filter_sublist.map Prod.fst).nodup fs.distinct }

/-- The names in a directory and their entries, in listing order. -/
def children (fs : FileSystem) (dir : Location) : List (Name × Entry) :=
  fs.entries.filterMap fun
    | (name :: parent, e) => if parent = dir then some (name, e) else none
    | ([], _) => none

/-- The absolute path of a location. -/
def pathOf (loc : Location) : Path :=
  ⟨Path.slash :: Separated.join Path.slash loc.reverse⟩

/-- The path of a location as seen from a directory above it. -/
def relative? (dir loc : Location) : Option Path :=
  if dir.isSuffixOf loc ∧ dir ≠ loc then
    some ⟨Separated.join Path.slash (loc.take (loc.length - dir.length)).reverse⟩
  else none

/-- All that is below the current directory, by relative paths. -/
def snapshot (fs : FileSystem) : List (Path × Entry) :=
  fs.entries.filterMap fun pair => (relative? fs.here pair.1).map (·, pair.2)

end FileSystem

end GoldenFiles
