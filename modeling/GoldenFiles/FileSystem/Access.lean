import GoldenFiles.FileSystem.Lookup

/-!
# Paths that are no names

The system takes the bytes of a path up to the first NUL, so a path that holds
one cannot be handed to it. Whoever asks for such a file is told so and the
system is not asked; any other failure is the system's own.
-/

namespace GoldenFiles

/-- What is said of a path that holds a NUL byte. -/
def nulInPath : IoError := .described "file name contained an unexpected NUL byte"

/-- Whether bytes hold a NUL byte. -/
def holdsNul (bytes : Bytes) : Bool := bytes.contains 0

/-- The answer to a question about a path, which is asked only if the path can be
handed to the system. -/
def Path.access {α : Type} (p : Path) (answer : Except Errno α) : Except IoError α :=
  if holdsNul p.bytes then .error nulInPath else answer.mapError .os

theorem Path.access_of_not_holdsNul {α : Type} {p : Path} (h : holdsNul p.bytes = false)
    (answer : Except Errno α) : p.access answer = answer.mapError .os := by
  simp [Path.access, h]

end GoldenFiles
