import GoldenFiles.FileSystem.Update
import GoldenFiles.Text.Digits

/-!
# Processes

What a program can do is small: read what is open for reading, write to what is
open for writing, use the file system, and let time pass. Time does not run by
itself. Every action costs a little and sleeping costs what it says, and once
the time limit is reached nothing more happens, so what a program does depends
on nothing outside it.

Descriptors lead to what is open, and several may lead to the same: then they
share the place up to which it was read or written. What is written to standard
output is noted down with its time, because programs in the background are run
later than they would run.

Programs see text as bytes. Here a byte is the character with its number, so
that programs can be written with ordinary characters.
-/

namespace GoldenFiles.Program

/-- Text as a program sees it: every character stands for one byte. -/
abbrev Text := List Char

/-- Bytes as characters. -/
def ofBytes (bytes : Bytes) : Text := bytes.map fun b => Char.ofNat b.toNat

/-- Characters as bytes. -/
def toBytes (text : Text) : Bytes := text.map fun c => .ofNat c.toNat

/-- A string as a program sees it. -/
def ofString (s : String) : Text := ofBytes (Utf8.encode s)

/-- The path that a text is. -/
def pathOf (text : Text) : Path := ⟨toBytes text⟩

/-- Where text goes that leaves the program. -/
inductive Sink where
  | output
  | error
  | pipe (number : Nat)
  deriving DecidableEq, Repr

/-- What may be done with a file that is open. -/
structure Mode where
  reads : Bool := false
  writes : Bool := false
  /-- All that is written goes to the end. -/
  appends : Bool := false
  deriving DecidableEq, Repr

/-- What is open. -/
inductive Handle where
  /-- Nothing to read, and all that is written is lost. -/
  | null
  /-- Nothing to read, and no room for what is written. -/
  | full
  /-- What is left to read of a text. -/
  | text (rest : Text)
  | sink (sink : Sink)
  | directory
  /-- A file, and what it held when it was last looked at. -/
  | file (loc : Location) (mode : Mode) (offset : Nat) (content : Bytes)
  deriving DecidableEq, Repr

/-- Where a text goes in the file behind standard output. -/
inductive Placement where
  /-- Behind what was last written without an offset. -/
  | next
  | offset (n : Nat)
  | atEnd
  /-- In front, and nothing of what was there stays. -/
  | alone
  deriving DecidableEq, Repr

/-- What is written to standard output, to standard error or to a pipe. -/
structure Chunk where
  time : Nat
  sink : Sink
  placement : Placement := .next
  text : Text
  deriving DecidableEq, Repr

/-- A content with bytes written at an offset. A gap in front of them is filled. -/
def overwritten (content : Bytes) (offset : Nat) (bytes : Bytes) : Bytes :=
  content.take offset ++ List.replicate (offset - content.length) 0 ++ bytes ++
    content.drop (offset + bytes.length)

/-- The content of a file, and where the next text goes, after a text. -/
def Chunk.apply (file : Bytes × Nat) (chunk : Chunk) : Bytes × Nat :=
  let bytes := toBytes chunk.text
  match chunk.placement with
  | .next => (overwritten file.1 file.2 bytes, file.2 + bytes.length)
  | .offset n => (overwritten file.1 n bytes, file.2)
  | .atEnd => (file.1 ++ bytes, file.2)
  | .alone => (bytes, file.2)

/-- The content of a file that chunks were written to. -/
def contentOf (chunks : List Chunk) : Bytes :=
  if chunks.all (·.placement = .next) then toBytes (chunks.flatMap Chunk.text)
  else (chunks.foldl Chunk.apply ([], 0)).1

/-- A process. Times are in nanoseconds since it was started. -/
structure Process where
  files : FileSystem
  clock : Nat := 0
  /-- When it is stopped, if it still runs then. -/
  deadline : Option Nat := none
  /-- What is open, by numbers. -/
  handles : List (Nat × Handle) := [(0, .null), (1, .sink .output), (2, .sink .error)]
  /-- Numbers from here on are free. -/
  nextHandle : Nat := 3
  /-- The descriptors and the numbers of what they lead to. -/
  channels : List (Nat × Nat) := [(0, 0), (1, 1), (2, 2)]
  /-- What was written, newest first. -/
  chunks : List Chunk := []
  /-- The file behind standard output, as long as it is there. -/
  outputFile : Option Location := none

/-- What an action costs. -/
def instant : Nat := 10000

namespace Process

/-! ## Time -/

/-- Whether the time limit is reached. -/
def isOver (p : Process) : Bool := p.deadline.any (· ≤ p.clock)

/-- Lets time pass. -/
def pass (p : Process) (time : Nat) : Process :=
  let clock := p.clock + time
  { p with clock := (p.deadline.map (min clock)).getD clock }

/-! ## Descriptors -/

/-- What a descriptor leads to, if it is open. -/
def handle? (p : Process) (descriptor : Nat) : Option (Nat × Handle) :=
  (p.channels.lookup descriptor).bind fun number => (p.handles.lookup number).map (number, ·)

/-- Notes down what is open under a new number. -/
def hold (p : Process) (handle : Handle) : Nat × Process :=
  (p.nextHandle,
    { p with handles := (p.nextHandle, handle) :: p.handles, nextHandle := p.nextHandle + 1 })

/-- Replaces what is open under a number. -/
def update (p : Process) (number : Nat) (handle : Handle) : Process :=
  { p with handles := p.handles.map fun (n, old) => (n, if n = number then handle else old) }

/-- Makes a descriptor lead to what is open under a number, or closes it. -/
def connect (p : Process) (descriptor : Nat) (number : Option Nat) : Process :=
  let others := p.channels.filter (·.1 ≠ descriptor)
  { p with channels := (number.toList.map fun n => (descriptor, n)) ++ others }

/-- Forgets what is open under numbers from a first one on, unless one of the
descriptors leads there. -/
def forget (p : Process) (first : Nat) : Process :=
  { p with handles := p.handles.filter fun (n, _) => n < first || p.channels.any (·.2 = n) }

/-- The files that are open for writing. They cannot be run as programs. -/
def openFiles (p : Process) : List Location :=
  p.outputFile.toList ++ p.channels.filterMap fun (_, number) =>
    match p.handles.lookup number with
    | some (.file loc mode _ _) => if mode.writes then some loc else none
    | _ => none

/-! ## Contents -/

/-- What was written to a sink, in the order of time. -/
def chunksTo (p : Process) (sink : Sink) : List Chunk :=
  (p.chunks.reverse.filter (·.sink = sink)).mergeSort fun a b => a.time ≤ b.time

/-- The text that was written to a sink. -/
def written (p : Process) (sink : Sink) : Text := (p.chunksTo sink).flatMap Chunk.text

/-- What is in a file. -/
def content? (p : Process) (loc : Location) : Option Bytes :=
  match p.files.entry? loc with
  | some (.file content _) =>
      some (if p.outputFile = some loc then contentOf (p.chunksTo .output) else content)
  | _ => none

/-- The process with another file system. Standard output is not behind a file
any more if that is gone. -/
def withFiles (p : Process) (files : FileSystem) : Process :=
  let isFile (loc : Location) : Bool := match files.entry? loc with
    | some (.file ..) => true
    | _ => false
  { p with files := files, outputFile := p.outputFile.filter isFile }

/-- The process after something was moved, with all below it. -/
def moved (p : Process) (files : FileSystem) (old new : Location) : Process :=
  let place (loc : Location) : Location :=
    if old.isSuffixOf loc then loc.take (loc.length - old.length) ++ new else loc
  { p with
    files := files
    outputFile := (p.outputFile.filter fun loc => !new.isSuffixOf loc).map place
    handles := p.handles.map fun (number, handle) =>
      (number, match handle with
        | .file loc mode offset content => .file (place loc) mode offset content
        | other => other) }

/-- The process after all that was written to standard output is in its file. -/
def settled (p : Process) : Process :=
  match p.outputFile with
  | some loc => { p with files := p.files.fill loc (contentOf (p.chunksTo .output)) }
  | none => p

/-! ## Reading and writing -/

/-- Writes text. What goes to a file is in it at once. -/
def write (p : Process) (descriptor : Nat) (text : Text) : Except Errno Process :=
  match p.handle? descriptor with
  | none | some (_, .text _) | some (_, .directory) => .error .badDescriptor
  | some (_, .null) => .ok p
  | some (_, .full) => if text = [] then .ok p else .error .noSpace
  | some (_, .sink sink) =>
      .ok { p with chunks := { time := p.clock, sink := sink, text := text } :: p.chunks }
  | some (number, .file loc mode offset content) =>
      if !mode.writes then .error .badDescriptor
      else
        let content := (p.content? loc).getD content
        let start := if mode.appends then content.length else offset
        let content := overwritten content start (toBytes text)
        let p := p.update number (.file loc mode (start + text.length) content)
        if p.outputFile = some loc then
          let placement := if mode.appends then Placement.atEnd else .offset start
          .ok { p with
            chunks := { time := p.clock, sink := .output, placement := placement, text := text } ::
              p.chunks }
        else .ok { p with files := p.files.fill loc content }

/-- Writes text where it does not matter whether that can be done. -/
def tell (p : Process) (descriptor : Nat) (text : Text) : Process :=
  match p.write descriptor text with
  | .ok p => p
  | .error _ => p

/-- What is left to read. -/
def unread (p : Process) (descriptor : Nat) : Except Errno Text :=
  match p.handle? descriptor with
  | none | some (_, .sink _) => .error .badDescriptor
  | some (_, .null) | some (_, .full) => .ok []
  | some (_, .text rest) => .ok rest
  | some (_, .directory) => .error .isDirectory
  | some (_, .file loc mode offset content) =>
      if mode.reads then .ok (ofBytes (((p.content? loc).getD content).drop offset))
      else .error .badDescriptor

/-- Leaves out so many characters of what is left to read. -/
def skip (p : Process) (descriptor : Nat) (count : Nat) : Process :=
  match p.handle? descriptor with
  | some (number, .text rest) => p.update number (.text (rest.drop count))
  | some (number, .file loc mode offset content) =>
      p.update number (.file loc mode (offset + count) content)
  | _ => p

/-- Reads all that is left. -/
def readAll (p : Process) (descriptor : Nat) : Except Errno (Text × Process) :=
  (p.unread descriptor).map fun text => (text, p.skip descriptor text.length)

/-- Reads a line and tells whether it was ended. -/
def readLine (p : Process) (descriptor : Nat) : Text × Bool × Process :=
  let text := (p.unread descriptor).toOption.getD []
  let line := text.takeWhile (· ≠ '\n')
  let ended := line.length < text.length
  (line, ended, p.skip descriptor (line.length + if ended then 1 else 0))

/-! ## Opening -/

/-- What a file is opened for. -/
inductive Opening where
  | reading
  /-- All that is there is removed. -/
  | writing
  | appending
  | updating
  deriving DecidableEq, Repr

/-- What may be done with a file then. -/
def Opening.mode : Opening → Mode
  | reading => { reads := true }
  | writing => { writes := true }
  | appending => { writes := true, appends := true }
  | updating => { reads := true, writes := true }

/-- Opens the file at a location. -/
def openAt (p : Process) (opening : Opening) (loc : Location) : Nat × Process :=
  let content := if opening = .writing then [] else (p.content? loc).getD []
  let handle := Handle.file loc opening.mode 0 content
  if opening ≠ .writing then p.hold handle
  else if p.outputFile = some loc then
    { p with
      chunks := { time := p.clock, sink := .output, placement := .alone, text := [] } :: p.chunks
    }.hold handle
  else { p with files := p.files.fill loc [] }.hold handle

/-- A path that names no file but something that is always there. -/
inductive Device where
  | null
  | full
  /-- What a descriptor leads to. -/
  | descriptor (n : Nat)
  deriving DecidableEq, Repr

/-- What a path stands for that names no file. -/
def device? (path : Text) : Option Device :=
  let numbered (digits : Text) : Option Device := (Digits.number? digits).map .descriptor
  match String.ofList path with
  | "/dev/null" => some .null
  | "/dev/full" => some .full
  | "/dev/stdin" => some (.descriptor 0)
  | "/dev/stdout" => some (.descriptor 1)
  | "/dev/stderr" => some (.descriptor 2)
  | _ =>
      if "/dev/fd/".toList.isPrefixOf path then numbered (path.drop 8)
      else if "/proc/self/fd/".toList.isPrefixOf path then numbered (path.drop 14)
      else none

/-- Opens what a path names. A file is opened anew even if it is named by a
descriptor. -/
def openPath (p : Process) (opening : Opening) (path : Text) : Except Errno (Nat × Process) :=
  match device? path with
  | some .null => .ok (p.hold .null)
  | some .full => .ok (p.hold .full)
  | some (.descriptor n) =>
      match p.handle? n with
      | none => .error .noEntry
      | some (_, .file loc ..) => .ok (p.openAt opening loc)
      | some (number, .sink .output) =>
          match p.outputFile with
          | some loc => .ok (p.openAt opening loc)
          | none => .ok (number, p)
      | some (number, .directory) =>
          if opening = .reading then .ok (number, p) else .error .isDirectory
      | some (number, _) => .ok (number, p)
  | none =>
      match opening, p.files.stat (pathOf path) with
      | .reading, .ok (_, .directory) => .ok (p.hold .directory)
      | _, .ok (loc, .file ..) =>
          if path.getLast? = some '/' then .error .notDirectory else .ok (p.openAt opening loc)
      | .reading, .ok (_, .link _) => .error .tooManyLinks
      | .reading, .error e => .error e
      | _, _ =>
          match p.files.create (pathOf path) with
          | .ok (loc, files) => .ok ({ p with files := files }.hold (.file loc opening.mode 0 []))
          | .error e => .error e

/-- Reads the whole of what a path names. -/
def readPath (p : Process) (path : Text) : Except Errno Text := do
  let (number, opened) ← p.openPath .reading path
  ({ opened with channels := [(0, number)] }).unread 0

end Process

end GoldenFiles.Program
