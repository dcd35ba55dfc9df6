import GoldenFiles.Config.Settings
import GoldenFiles.Error
import GoldenFiles.FileSystem.Lookup

/-!
# Refusing settings that would do harm

Settings are refused if a derived name could leave its directory, if an
expected output could be taken for an input, or if actual outputs would be
written over the expected ones. The faults are looked for in a fixed order and
the first one found is the one reported.

Two directories are the same if they are one place in the file system. A
directory that does not exist yet is no place, so it is compared by its
absolute path without dots.
-/

namespace GoldenFiles

/-- A part of a file name that a setting gives. -/
inductive NamePart where
  | inputMarker
  | outputMarker
  | inputExtension
  | expectedExtension
  deriving DecidableEq, Repr

namespace NamePart

/-- The parts in the order in which they are looked at. -/
def all : List NamePart := [inputMarker, outputMarker, inputExtension, expectedExtension]

/-- What a part is called. -/
def label : NamePart → String
  | inputMarker => "input marker"
  | outputMarker => "output marker"
  | inputExtension => "input extension"
  | expectedExtension => "expected extension"

/-- The text that a scheme gives to a part. -/
def text (part : NamePart) (scheme : Scheme) : String :=
  match part with
  | inputMarker => scheme.inputMarker
  | outputMarker => scheme.outputMarker
  | inputExtension => scheme.inputExtension
  | expectedExtension => scheme.expectedExtension

end NamePart

/-- What is wrong with settings. -/
inductive Fault where
  | emptyPart (part : NamePart)
  | separatorIn (part : NamePart) (text : String)
  | dotInMarker (marker : String)
  | leadingDot
  | identicalNames
  | noProgram
  | outputIsFixtures (dir : Path)
  deriving DecidableEq, Repr

/-- The text of a fault. -/
def Fault.message : Fault → String
  | emptyPart part => part.label ++ " must not be empty"
  | separatorIn part text =>
      part.label ++ " '" ++ text ++ "' must not contain a path separator"
  | dotInMarker marker => "input marker '" ++ marker ++ "' must not contain '.'"
  | leadingDot => "extensions are given without a leading '.'"
  | identicalNames =>
      "expected-output files would overwrite input fixtures: " ++
        "markers and extensions are identical"
  | noProgram => "program under test must be set"
  | outputIsFixtures dir =>
      "output directory '" ++ dir.display ++ "' is the fixture directory: " ++
        "actual output would overwrite expected files"

namespace FileSystem

/-- The place that a path names, found by looking up one name after the other.
Unlike a question to the system it takes a path of any length. -/
def canonical? (fs : FileSystem) (p : Path) : Option Location :=
  if p.bytes = [] then none
  else
    match fs.walk true maxLinks (start fs.here p) (steps p) with
    | .ok (.entry loc _) => some loc
    | _ => none

/-- What stands for a directory when two are compared: the place it is, or its
absolute path without dots if it is not there. -/
def comparable (fs : FileSystem) (dir : Path) : List Component :=
  match fs.canonical? dir with
  | some loc => (pathOf loc).components
  | none => ((pathOf fs.here).join dir).components.filter (· ≠ .current)

/-- Whether two paths stand for one directory. -/
def sameDirectory (fs : FileSystem) (a b : Path) : Bool := fs.comparable a = fs.comparable b

end FileSystem

namespace Scheme

/-- The fault of one part, if it has one. -/
def partFault? (scheme : Scheme) (part : NamePart) : Option Fault :=
  let text := part.text scheme
  if text.toList = [] then some (.emptyPart part)
  else if text.toList.any fun c => c = '/' ∨ c = '\\' then some (.separatorIn part text)
  else none

/-- Whether a text starts with a dot. -/
def startsWithDot (text : String) : Bool := text.toList.head? = some '.'

/-- The first fault of a naming scheme. -/
def fault? (scheme : Scheme) : Option Fault :=
  match NamePart.all.findSome? scheme.partFault? with
  | some fault => some fault
  | none =>
      if '.' ∈ scheme.inputMarker.toList then some (.dotInMarker scheme.inputMarker)
      else if startsWithDot scheme.inputExtension ∨ startsWithDot scheme.expectedExtension then
        some .leadingDot
      else if scheme.inputMarker = scheme.outputMarker ∧
          scheme.inputExtension = scheme.expectedExtension then
        some .identicalNames
      else none

end Scheme

namespace Settings

/-- The first fault of settings on a file system. -/
def fault? (fs : FileSystem) (s : Settings) : Option Fault :=
  match s.scheme.fault? with
  | some fault => some fault
  | none =>
      if s.program.bytes = [] then some .noProgram
      else if fs.sameDirectory s.fixturesDir s.outputDir then
        some (.outputIsFixtures s.outputDir)
      else none

/-- Accepts settings without fault. -/
def validate (fs : FileSystem) (s : Settings) : Except RunError Unit :=
  match s.fault? fs with
  | some fault => .error (.config fault.message)
  | none => .ok ()

end Settings

end GoldenFiles
