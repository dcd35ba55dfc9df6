/-!
# What a file operation can fail with

The system answers a failed operation with one of a small set of conditions,
each with a number and a text of its own. A few failures have no such number:
a content that should have been text, or a condition that the caller found by
looking. They are just their texts.
-/

namespace GoldenFiles

/-- A condition that the system reports. -/
inductive Errno where
  | notPermitted
  | noEntry
  | execFormat
  | badDescriptor
  | permissionDenied
  | fileExists
  | notDirectory
  | isDirectory
  | textBusy
  | noSpace
  | nameTooLong
  | tooManyLinks
  deriving DecidableEq, Repr

namespace Errno

/-- The number of a condition. -/
def code : Errno → Nat
  | notPermitted => 1
  | noEntry => 2
  | execFormat => 8
  | badDescriptor => 9
  | permissionDenied => 13
  | fileExists => 17
  | notDirectory => 20
  | isDirectory => 21
  | textBusy => 26
  | noSpace => 28
  | nameTooLong => 36
  | tooManyLinks => 40

/-- The text of a condition. -/
def message : Errno → String
  | notPermitted => "Operation not permitted"
  | noEntry => "No such file or directory"
  | execFormat => "Exec format error"
  | badDescriptor => "Bad file descriptor"
  | permissionDenied => "Permission denied"
  | fileExists => "File exists"
  | notDirectory => "Not a directory"
  | isDirectory => "Is a directory"
  | textBusy => "Text file busy"
  | noSpace => "No space left on device"
  | nameTooLong => "File name too long"
  | tooManyLinks => "Too many levels of symbolic links"

/-- All conditions. -/
def all : List Errno :=
  [notPermitted, noEntry, execFormat, badDescriptor, permissionDenied, fileExists,
    notDirectory, isDirectory, textBusy, noSpace, nameTooLong, tooManyLinks]

/-- The condition with a number. -/
def ofCode? (n : Nat) : Option Errno := all.find? (·.code = n)

end Errno

/-- Why an operation on a file failed. -/
inductive IoError where
  | os (condition : Errno)
  | described (text : String)
  deriving DecidableEq, Repr

/-- The text of a failure. -/
def IoError.message : IoError → String
  | .os e => e.message ++ " (os error " ++ toString e.code ++ ")"
  | .described text => text

end GoldenFiles
