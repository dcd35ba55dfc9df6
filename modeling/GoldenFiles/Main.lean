import GoldenFiles.CommandLine.Run
import GoldenFiles.Shell.Launch

/-!
# The command

Reads what is below the current directory, runs the suite on that, and makes the
files what they are after the run. Programs are run by the library itself, so a
run can change nothing outside this directory.
-/

namespace GoldenFiles.CommandLine

/-- Adds an entry of a directory, and all that is below it. A link leads to where
it ends, and what cannot be read is left out. -/
partial def load (dir : Location) (fs : FileSystem) (entry : IO.FS.DirEntry) : IO FileSystem := do
  let loc := Utf8.encode entry.fileName :: dir
  try
    match (← entry.path.symlinkMetadata).type with
    | .dir => (← entry.path.readDir).foldlM (load loc) (fs.put loc .directory)
    | .file =>
        let content := (← IO.FS.readBinFile entry.path).toList
        let isScript := (Program.interpreter? (Program.ofBytes content)).isSome
        return fs.put loc (.file content isScript)
    | .symlink =>
        let target ← IO.FS.realPath entry.path
        return fs.put loc (.link (.ofString target.toString))
    | .other => return fs
  catch _ => return fs

/-- The current directory and all that is below it. -/
def loadHere : IO FileSystem := do
  let directory ← IO.currentDir
  let here := ((Path.ofString directory.toString).pieces.filter (· ≠ [])).reverse
  let above := (List.range here.length).foldl
    (fun fs depth => fs.put (here.drop depth) .directory) FileSystem.empty
  let fs ← (← directory.readDir).foldlM (load here) above
  return { fs with here := here }

/-- Makes a file or a directory what it is after a run. -/
def store (path : String) : Entry → IO Unit
  | .directory => IO.FS.createDirAll path
  | .file content executable => do
      IO.FS.writeBinFile path ⟨content.toArray⟩
      if executable then
        let all : IO.AccessRight := { read := true, write := true, execution := true }
        IO.setAccessRights path ⟨all, { all with write := false }, { all with write := false }⟩
  | .link _ => pure ()

/-- Removes a file, or a directory with all that is in it. -/
def discard (path : String) : Entry → IO Unit
  | .directory => IO.FS.removeDirAll path
  | _ => IO.FS.removeFile path

/-- Makes the files below the current directory what they are after a run. -/
def storeAll (before after : FileSystem) : IO Unit := do
  let old := before.snapshot
  let new := after.snapshot
  for (path, entry) in old do
    if !new.any (·.1 = path) then
      try discard path.display entry catch _ => pure ()
  for (path, entry) in new do
    if old.lookup path ≠ some entry then store path.display entry

end GoldenFiles.CommandLine

open GoldenFiles CommandLine in
/-- Runs the suite that the command line asks for. -/
def main (args : List String) : IO UInt32 := do
  let out ← IO.getStdout
  let err ← IO.getStderr
  match Arguments.ofWords args with
  | .error e =>
      (if e.exitCode = 0 then out else err).putStr e.message
      return e.exitCode.toUInt32
  | .ok a =>
      let fs ← loadHere
      let colors := (← out.isTty) && (← IO.getEnv "NO_COLOR").isNone
      let outcome := run Shell.launch { colors := colors } a fs
      storeAll fs outcome.files
      out.putStr outcome.stdout
      err.write ⟨outcome.stderr.toArray⟩
      return outcome.code.toUInt32
