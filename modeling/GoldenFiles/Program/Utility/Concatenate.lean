import GoldenFiles.Program.Number
import GoldenFiles.Program.Utility.Basic

/-!
# Showing files

Files are copied to standard output one behind the other. On the way, lines can
be numbered, empty lines left out, and characters that cannot be seen made
visible. All files count as one text, so what is known of the text so far is
carried from each to the next.
-/

namespace GoldenFiles.Program.Utility

/-- What is made visible. -/
structure Display where
  numbers : Bool := false
  /-- Empty lines are not numbered. -/
  fullLines : Bool := false
  ends : Bool := false
  tabs : Bool := false
  invisible : Bool := false
  squeezes : Bool := false
  deriving DecidableEq, Repr

/-- What the letters of options ask for. -/
def Display.ofLetters (letters : Text) : Display :=
  let asked (options : String) : Bool := options.toList.any letters.contains
  { numbers := asked "nb", fullLines := asked "b", ends := asked "EAe", tabs := asked "TAt"
    invisible := asked "vAet", squeezes := asked "s" }

/-- What is known of the text so far. -/
structure Progress where
  /-- How many lines were numbered. -/
  lines : Nat := 0
  /-- Whether the next character is the first one of its line. -/
  fresh : Bool := true
  /-- How many empty lines there were in a row; at the beginning of the text it is
  as if a line had ended. -/
  empty : Nat := 0
  /-- A carriage return was read and is not shown yet. -/
  held : Bool := false
  deriving DecidableEq, Repr

/-- The number in front of a line. -/
def lineNumber (n : Nat) : Text :=
  let digits := Nat.toDigits 10 n
  List.replicate (6 - digits.length) ' ' ++ digits ++ ['\t']

/-- A byte made visible. -/
def visible (c : Char) : Text :=
  let plain (n : Nat) : Text :=
    if n < 32 then ['^', Char.ofNat (n + 64)] else if n = 127 then ['^', '?'] else [Char.ofNat n]
  if c.toNat < 128 then plain c.toNat else 'M' :: '-' :: plain (c.toNat - 128)

/-- The end of a line as it is shown. -/
def Display.lineEnd (display : Display) (progress : Progress) : Text × Progress :=
  let empty := if progress.fresh then progress.empty + 1 else 0
  let next := { progress with fresh := true, empty := empty, held := false }
  if display.squeezes ∧ 2 ≤ empty then ([], next)
  else
    let numbered := 0 < empty ∧ display.numbers ∧ !display.fullLines
    let lines := if numbered then progress.lines + 1 else progress.lines
    let mark := if !display.ends then [] else if progress.held then ['^', 'M', '$'] else ['$']
    ((if numbered then lineNumber lines else []) ++ mark ++ ['\n'], { next with lines := lines })

/-- A character inside a line as it is shown. -/
def Display.inLine (display : Display) (progress : Progress) (c : Char) : Text × Progress :=
  let numbered := progress.fresh ∧ display.numbers
  let lines := if numbered then progress.lines + 1 else progress.lines
  let holds := display.ends ∧ !display.invisible ∧ c = '\r'
  let front := (if progress.held then ['\r'] else []) ++ if numbered then lineNumber lines else []
  let shown :=
    if holds then []
    else if c = '\t' then if display.tabs then ['^', 'I'] else [c]
    else if display.invisible then visible c
    else [c]
  (front ++ shown, { lines := lines, fresh := false, empty := 0, held := holds })

/-- A text as it is shown. -/
def Display.render (display : Display) : Progress → Text → Text × Progress
  | progress, [] => ([], progress)
  | progress, c :: rest =>
      let (shown, progress) :=
        if c = '\n' then display.lineEnd progress else display.inLine progress c
      let (more, progress) := display.render progress rest
      (shown ++ more, progress)

/-- A plain display shows a text as it is. -/
def Display.shown (display : Display) (progress : Progress) (text : Text) : Text × Progress :=
  if display = {} then (text, progress) else display.render progress text

/-- Whether a file that is being read is the one that is written to, at a place
that reading has yet to come to. -/
def readsItself (p : Process) (number : Nat) : Bool :=
  match p.handles.lookup number, p.handle? 1 with
  | some (.file loc _ place _), some (_, .file loc' mode offset content) =>
      loc = loc' && place < if mode.appends then ((p.content? loc).getD content).length else offset
  | some (.file loc _ place _), some (_, .sink .output) =>
      p.outputFile = some loc && place < ((p.content? loc).getD []).length
  | _, _ => false

/-- Shows a file. -/
def showFile (display : Display) (name : Text) (state : Progress × Process) :
    Bool × Progress × Process :=
  let (progress, p) := state
  let failed (why : String) : Bool × Progress × Process :=
    (false, progress, p.complain "cat" (shownName name ++ ofString (": " ++ why)))
  let opened : Except Errno (Nat × Process) :=
    if name = ['-'] then
      match p.handle? 0 with
      | some (number, _) => .ok (number, p)
      | none => .error .badDescriptor
    else p.openPath .reading name
  match opened with
  | .error e => failed e.message
  | .ok (number, opened) =>
      if readsItself opened number then failed "input file is output file"
      else
        match (opened.connect 0 (some number)).readAll 0 with
        | .error e => failed e.message
        | .ok (text, after) =>
            let (shown, progress) := display.shown progress text
            let after := { after with channels := p.channels }
            if shown = [] then (true, progress, after)
            else
              match after.write 1 shown with
              | .ok p => (true, progress, p)
              | .error e =>
                  (false, progress, after.complain "cat" (ofString ("write error: " ++ e.message)))

/-- Shows files; what could not be shown leaves a mark on the status. -/
def showAll (display : Display) : List Text → Progress × Process → Nat × Progress × Process
  | [], (progress, p) => (0, progress, p)
  | name :: names, state =>
      let (done, state) := showFile display name state
      let (status, state) := showAll display names state
      (if done then status else 1, state)

/-- The options for showing files. -/
def displayOptions : Options where
  letters := "AbeEnstTuv"
  words := [("show-all", "A"), ("number-nonblank", "b"), ("show-ends", "E"), ("number", "n"),
    ("squeeze-blank", "s"), ("show-tabs", "T"), ("show-nonprinting", "v")]

/-- Copies files to standard output. -/
def cat : Utility := displayOptions.program "cat" fun letters names p =>
  if (p.handle? 1).isNone then
    (1, p.complain "cat" (ofString ("standard output: " ++ Errno.badDescriptor.message)))
  else
    let names := if names = [] then [['-']] else names
    let (status, progress, p) := showAll (.ofLetters letters) names ({}, p)
    if progress.held then printing "cat" status ['\r'] p else (status, p)

end GoldenFiles.Program.Utility
