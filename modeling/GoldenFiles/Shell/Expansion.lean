import GoldenFiles.Shell.Arithmetic
import GoldenFiles.Shell.Pattern
import GoldenFiles.Shell.Token

/-!
# Expanding words

A word becomes a row of atoms that still know where they come from. Only what
comes from a value and was not quoted is taken apart at separators, and only
what was not quoted can be a pattern for names of files. How commands are run
to see what they print is given from outside.
-/

namespace GoldenFiles.Shell

open Program (Text)

/-- A character of an expanded word, or a place in it. -/
inductive Atom where
  | plain (c : Char)
  | quoted (c : Char)
  /-- From a value that was not quoted. -/
  | value (c : Char)
  /-- Quotes were here, so the field is there even if it is empty. -/
  | present
  /-- A new field begins. -/
  | boundary
  deriving DecidableEq, Repr

namespace Atom

/-- The character, and whether it was quoted. -/
def marked? : Atom → Option Marked
  | plain c | value c => some (c, false)
  | quoted c => some (c, true)
  | boundary | present => none

/-- An atom of a word that stands in for a value. -/
def asValue : Atom → Atom
  | plain c => value c
  | atom => atom

end Atom

/-- A text as atoms. -/
def atomsOf (isQuoted : Bool) (text : Text) : List Atom :=
  if isQuoted then .present :: text.map .quoted else text.map .value

/-- The pattern that atoms are. -/
def patternOf (atoms : List Atom) : Pattern := .ofMarked (atoms.filterMap Atom.marked?)

/-- The text that the atoms of a field are. -/
def textOf (atoms : List Atom) : Text := (atoms.filterMap Atom.marked?).map Prod.fst

/-- Texts as atoms, each a field of its own. -/
def fieldAtoms (isQuoted : Bool) : List Text → List Atom
  | [] => []
  | [text] => atomsOf isQuoted text
  | text :: texts => atomsOf isQuoted text ++ .boundary :: fieldAtoms isQuoted texts

/-- Whether a parameter stands for all arguments. -/
def isRow (name : Text) : Bool := name = ['@'] || name = ['*']

/-- Whether a parameter stands for a row of fields: all arguments, where there can be
several fields. In quotes there is one of them that stands for a single field. -/
def isRowHere (several isQuoted : Bool) (name : Text) : Bool :=
  several && (name = ['@'] || (name = ['*'] && !isQuoted))

/-- All arguments as one text. -/
def State.joined (s : State) : Text := List.intercalate (s.separators.take 1) s.arguments

/-! ## Homes -/

/-- The homes of users of the system. -/
def homes : List (String × String) :=
  [("root", "/root"), ("daemon", "/usr/sbin"), ("bin", "/bin"), ("sys", "/dev"),
    ("sync", "/bin"), ("games", "/usr/games"), ("man", "/var/cache/man"),
    ("lp", "/var/spool/lpd"), ("mail", "/var/mail"), ("news", "/var/spool/news"),
    ("uucp", "/var/spool/uucp"), ("proxy", "/bin"), ("www-data", "/var/www"),
    ("backup", "/var/backups"), ("list", "/var/list"), ("irc", "/run/ircd"),
    ("nobody", "/nonexistent")]

/-- The home of a user, or of who runs the shell. -/
def State.home? (s : State) (user : Text) : Option Text :=
  if user = [] then s.value? "HOME".toList
  else (homes.find? fun (name, _) => name.toList = user).map fun (_, home) => home.toList

/-- The atoms of the home of a user; the name with its tilde, if there is none. -/
def State.homeAtoms (s : State) (user : Text) : List Atom :=
  match s.home? user with
  | none => ('~' :: user).map .plain
  | some [] => []
  | some home => atomsOf true home

/-! ## Parts -/

/-- Runs a command and gives what it prints. -/
abbrev Capture := Command → State → Text × State

/-- The value of a parameter as one text. -/
def State.valueOf (s : State) (name : Text) : Text :=
  if isRow name then s.joined else (s.parameter? name).getD []

/-- The atoms of the value of a parameter. -/
def State.valueAtoms (s : State) (several isQuoted : Bool) (name : Text) : List Atom :=
  if isRowHere several isQuoted name then fieldAtoms isQuoted s.arguments
  else atomsOf isQuoted (s.valueOf name)

/-- The end of a shell that uses a parameter without a value. -/
def State.missing (s : State) (name : Text) : List Atom × State :=
  ([], s.giveUp (name ++ Program.ofString ": parameter not set"))

/-- Whether it is a mistake to use a parameter. -/
def State.isMissing (s : State) (name : Text) : Bool :=
  s.has .nounset && (s.parameter? name).isNone && !isRow name

/-- Whether a parameter has a value that counts. -/
def State.counts (s : State) (orEmpty : Bool) (name : Text) : Bool :=
  (s.parameter? name).any fun value => !orEmpty || value ≠ []

/-- Gives a value to a variable in a word. -/
def State.setInWord (s : State) (name value : Text) : State :=
  if isName name then s.set name value
  else s.giveUp (name ++ Program.ofString ": bad variable name")

mutual

/-- Expands a part of a word, where there can be several fields or not. -/
def expandPart (capture : Capture) (several : Bool) : Part → State → List Atom × State
  | .text isQuoted text, s =>
      (if isQuoted then .present :: text.map .quoted else text.map .plain, s)
  | .home user, s => (s.homeAtoms user, s)
  | .parameter isQuoted name use, s => expandUse capture several isQuoted name use s
  | .printed isQuoted body, s =>
      let (text, s) := capture body s
      let text := text.filter (· ≠ '\u0000')
      (atomsOf isQuoted (text.reverse.dropWhile (· = '\n')).reverse, s)
  | .arithmetic isQuoted expression, s =>
      let (atoms, s) := expandParts capture false expression s
      if s.flow ≠ .next then ([], s)
      else
        match arithmetic (textOf atoms) s with
        | .ok (n, s) => (atomsOf isQuoted (toString n).toList, s)
        | .error .overflow => ([], { s with flow := .killed 8 })
        | .error e => ([], s.giveUp (e.message (textOf atoms)))

/-- Expands a word. -/
def expandParts (capture : Capture) (several : Bool) : List Part → State → List Atom × State
  | [], s => ([], s)
  | part :: parts, s =>
      let (atoms, s) := expandPart capture several part s
      let (more, s) := if s.flow = .next then expandParts capture several parts s else ([], s)
      (atoms ++ more, s)

/-- Expands a parameter. -/
def expandUse (capture : Capture) (several isQuoted : Bool) (name : Text) :
    Use → State → List Atom × State
  | .value, s =>
      if s.isMissing name then s.missing name else (s.valueAtoms several isQuoted name, s)
  | .length, s =>
      if s.isMissing name then s.missing name
      else (atomsOf isQuoted (decimal ((s.parameter? name).getD []).length), s)
  | .default orEmpty word, s =>
      if s.counts orEmpty name then (s.valueAtoms several isQuoted name, s)
      else
        let (atoms, s) := expandParts capture several word s
        (if isQuoted then atoms else atoms.map .asValue, s)
  | .assign orEmpty word, s =>
      if s.counts orEmpty name then (s.valueAtoms several isQuoted name, s)
      else
        let (atoms, s) := expandParts capture false word s
        (atomsOf isQuoted (textOf atoms), s.setInWord name (textOf atoms))
  | .alternative orEmpty word, s =>
      if s.counts orEmpty name then
        let (atoms, s) := expandParts capture several word s
        (if isQuoted then atoms else atoms.map .asValue, s)
      else (atomsOf isQuoted [], s)
  | .insist orEmpty word, s =>
      if s.counts orEmpty name then (s.valueAtoms several isQuoted name, s)
      else
        let (atoms, s) := expandParts capture false word s
        let text := if word.isEmpty then Program.ofString "parameter not set" else textOf atoms
        ([], s.giveUp (name ++ [':', ' '] ++ text))
  | .unknown, s => ([], s.giveUp (Program.ofString "Bad substitution"))
  | .trim how word, s =>
      if s.isMissing name then s.missing name
      else
        let (atoms, s) := expandParts capture false word s
        let pattern := patternOf atoms
        if isRowHere several isQuoted name then
          (fieldAtoms isQuoted (pattern.trimRow how s.arguments), s)
        else (atomsOf isQuoted (pattern.trim how (s.valueOf name)), s)

end

/-! ## Fields -/

/-- The fields that are finished, newest first; the one that is being made, if any,
its newest atom first; and whether white space has just ended one. -/
structure Splitting where
  finished : List (List Atom) := []
  current : Option (List Atom) := none
  afterBlank : Bool := false

/-- Finishes the field that is being made. An empty one is made up if there has
to be one. -/
def Splitting.finish (split : Splitting) (force afterBlank : Bool) : Splitting :=
  match split.current with
  | some field => { finished := field.reverse :: split.finished, afterBlank := afterBlank }
  | none =>
      { finished := if force then [] :: split.finished else split.finished
        afterBlank := afterBlank }

/-- Takes account of an atom. -/
def Splitting.push (separators : Text) (split : Splitting) (atom : Atom) : Splitting :=
  let add : Splitting :=
    { split with current := some (atom :: split.current.getD []), afterBlank := false }
  match atom with
  | .boundary => split.finish false (split.current.isSome || split.afterBlank)
  | .value c =>
      if !separators.contains c then add
      else if c = ' ' ∨ c = '\t' ∨ c = '\n' then
        split.finish false (split.current.isSome || split.afterBlank)
      else split.finish (!split.afterBlank) false
  | _ => add

/-- The fields of an expanded word. -/
def fieldsOf (separators : Text) (atoms : List Atom) : List (List Atom) :=
  let split := atoms.foldl (Splitting.push separators) {}
  (split.finish false false).finished.reverse

/-- The names in a directory that a pattern matches, those of the directory itself and
the one above it included. A dot in front has to be given. -/
def namesIn (files : FileSystem) (dir : Path) (pattern : Pattern) : List Text :=
  match files.stat dir with
  | .ok (loc, .directory) =>
      let names := ['.'] :: ['.', '.'] ::
        (files.children loc).map fun (name, _) => Program.ofBytes name
      let fits (name : Text) : Bool :=
        pattern.covers name && (name.head? ≠ some '.' || pattern.head? = some (.exactly '.'))
      names.filter fits
  | _ => []

/-- The paths that a row of patterns, one for each component, matches below a
path. -/
def pathsBelow (files : FileSystem) (front : Text) : List (List Marked) → List Text
  | [] => []
  | [last] =>
      let pattern := Pattern.ofMarked last
      let dir := if front = [] then ['.'] else front
      if pattern.isActive then
        (namesIn files (Program.pathOf dir) pattern).map (front ++ ·)
      else
        let path := front ++ last.map Prod.fst
        if (files.find false (Program.pathOf path)).toOption.any
            (fun | .entry .. => true | .absent .. => false) then [path] else []
  | part :: parts =>
      let pattern := Pattern.ofMarked part
      let dir := if front = [] then ['.'] else front
      let names :=
        if pattern.isActive then namesIn files (Program.pathOf dir) pattern
        else [part.map Prod.fst]
      names.flatMap fun name => pathsBelow files (front ++ name ++ ['/']) parts

/-- The texts that a field stands for: the paths that it matches as a pattern, in
order, or itself. -/
def fieldTexts (files : FileSystem) (field : List Atom) : List Text :=
  let characters := field.filterMap Atom.marked?
  let itself := characters.map Prod.fst
  if (Pattern.ofMarked characters).isActive then
    let parts := Separated.split ('/', false) (characters.map fun (c, isQuoted) =>
      (c, isQuoted && c ≠ '/'))
    match pathsBelow files [] parts with
    | [] => [itself]
    | paths => sortedBy id paths
  else [itself]

/-- The fields that a word stands for. -/
def expandWord (capture : Capture) (word : Word) (s : State) : List Text × State :=
  let (atoms, s) := expandParts capture true word s
  let fields := fieldsOf s.separators atoms
  if s.has .noglob then (fields.map textOf, s)
  else (fields.flatMap (fieldTexts s.process.files), s)

/-- The fields that words stand for. -/
def expandWords (capture : Capture) : List Word → State → List Text × State
  | [], s => ([], s)
  | word :: words, s =>
      let (fields, s) := expandWord capture word s
      if s.flow ≠ .next then ([], s)
      else
        let (more, s) := expandWords capture words s
        (fields ++ more, s)

/-- The one text that a word stands for. -/
def expandText (capture : Capture) (word : Word) (s : State) : Text × State :=
  let (atoms, s) := expandParts capture false word s
  (textOf atoms, s)

/-- The fields that the words of a command stand for. Behind a command that gives
values to variables, a word that is a name and a value is one field. -/
def expandCommand (capture : Capture) (givesValues : List Text → State → Bool) :
    (before : List Text) → List Word → State → List Text × State
  | before, [], s => (before, s)
  | before, word :: words, s =>
      let (fields, s) := match assignmentWord? word, givesValues before s with
        | some word, true =>
            let (text, s) := expandText capture word s
            ([text], s)
        | _, _ => expandWord capture word s
      if s.flow ≠ .next then ([], s)
      else expandCommand capture givesValues (before ++ fields) words s

end GoldenFiles.Shell
