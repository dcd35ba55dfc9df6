import GoldenFiles.Shell.Builtin.Basic

/-!
# Commands for the current directory and for rights

The shell remembers by which path the script has come to its directory. A step
up from there leads back along that path, also if it went through a link.
-/

namespace GoldenFiles.Shell

open Program (Text ofString)

/-- A path from the root, without steps that lead nowhere or back. Two slashes in
front of it stay two. -/
def plainPath (front path : Text) : Text :=
  let steps := Separated.split '/' path
  let go (before : List Text) (step : Text) : List Text :=
    if step = [] ∨ step = ['.'] then before
    else if step = ['.', '.'] then before.tail
    else step :: before
  let whole := if path.head? = some '/' then steps else Separated.split '/' front ++ steps
  let root := if path.take 2 = ['/', '/'] ∧ path[2]? ≠ some '/' then ['/', '/'] else ['/']
  root ++ Separated.join '/' (whole.foldl go []).reverse

/-- The path of a location, as scripts see it. -/
def physicalPath (loc : Location) : Text := Program.ofBytes (FileSystem.pathOf loc).bytes

/-- Goes to a directory, if it is one. -/
def State.goTo? (s : State) (physical : Bool) (target : Text) : Option State :=
  let path := if physical then target else plainPath s.here target
  match s.process.files.stat (Program.pathOf path) with
  | .ok (loc, .directory) =>
      let here := if physical then physicalPath loc else path
      let files := { s.process.files with here := loc }
      let s := { s with process := { s.process with files := files } }
      let s := (s.set "OLDPWD".toList s.here).rebind "OLDPWD".toList fun b =>
        { b with exported := true }
      let s := (s.set "PWD".toList here).rebind "PWD".toList fun b => { b with exported := true }
      some { s with here := here }
  | _ => none

/-- Whether options ask for the path without links; the last one counts. -/
def asksPhysical (given : Given) : Bool := (given.getLast?.map Prod.fst) = some 'P'

/-- Changes the current directory. A name is looked for in the directories of a
list as well, and the path that is found there is printed. -/
def changeDirectory : Builtin := withOptions "LP" fun given words s =>
  let physical := asksPhysical given
  let back := words.head? = some ['-']
  let named := match words with
    | [] => s.value? "HOME".toList
    | word :: _ => if back then s.value? "OLDPWD".toList else some word
  let target := named.getD []
  let direct := target.head? = some '/' ∨ target = ['.'] ∨ target = ['.', '.'] ∨
    ['.', '/'].isPrefixOf target ∨ ['.', '.', '/'].isPrefixOf target
  let go (path : Text) (shows : Bool) : State :=
    match s.goTo? physical path with
    | some s => ((if shows ∧ s.flow = .next then s.printLine s.here else s)).done 0
    | none => s.giveUp (ofString "can't cd to " ++ target)
  if direct then go target back
  else
    let target := if target = [] then ['.'] else target
    let fronts := Separated.split ':' ((s.value? "CDPATH".toList).getD [])
    let path (front : Text) : Text :=
      if front = [] then target
      else front ++ (if front.getLast? = some '/' then [] else ['/']) ++ target
    match fronts.find? fun front => s.process.files.isDirectory (Program.pathOf (path front)) with
    | some front => go (path front) (back ∨ front ≠ [])
    | none => go target back

/-- Prints the current directory. -/
def printDirectory : Builtin := withOptions "LP" fun given _ s =>
  let path := if asksPhysical given then physicalPath s.process.files.here else s.here
  (s.printLine path).done 0

/-! ## Rights -/

/-- The letters of rights that a number stands for. -/
def rights (n : Nat) : Text :=
  [(4, 'r'), (2, 'w'), (1, 'x')].filterMap fun (bit, letter) =>
    if n / bit % 2 = 1 then some letter else none

/-- The number that rights are, of which those of `before` may be meant. -/
def rightsValue (letters : Text) : Nat :=
  letters.foldl (fun n c => n ||| (match c with
    | 'r' => 4
    | 'w' => 2
    | 'x' => 1
    | _ => 0)) 0

/-- The rights that files have after a step that changes them. -/
def changedRights? (allowed : Nat) (step : Text) : Option Nat :=
  let who := step.takeWhile ("ugoa".toList.contains ·)
  let places : List Nat :=
    [('u', 64), ('g', 8), ('o', 1)].filterMap fun (letter, place) =>
      if who = [] ∨ who.contains 'a' ∨ who.contains letter then some place else none
  match step.drop who.length with
  | operation :: letters =>
      if !letters.all ("rwxXst".toList.contains ·) then none
      else
        let value := rightsValue letters
        let change (allowed place : Nat) : Nat :=
          let old := allowed / place % 8
          let new := match operation with
            | '+' => old ||| value
            | '-' => old &&& (7 - value)
            | _ => value
          allowed - old * place + new * place
        if operation ∈ ['+', '-', '='] then some (places.foldl change allowed) else none
  | [] => none

/-- Shows or changes the rights that new files do not have. -/
def umask : Builtin := withOptions "S" fun given words s =>
  let allowed := 511 - s.mask % 512
  match words with
  | [] =>
      if given.has 'S' then
        let part (name : Char) (place : Nat) : Text := [name, '='] ++ rights (allowed / place % 8)
        (s.printLine (Separated.join ',' [part 'u' 64, part 'g' 8, part 'o' 1])).done 0
      else
        let digits := [s.mask / 512 % 8, s.mask / 64 % 8, s.mask / 8 % 8, s.mask % 8]
        (s.printLine (digits.flatMap decimal)).done 0
  | word :: _ =>
      if word.head?.any Char.isDigit then
        if word.all (Program.isDigitOf 8) then
          { s with mask := Program.valueOf 8 word % 512 }.done 0
        else s.giveUp (State.illegalNumber word)
      else
        let steps := Separated.split ',' word
        match steps.foldl (fun n? step => n?.bind (changedRights? · step)) (some allowed) with
        | some allowed => { s with mask := 511 - allowed }.done 0
        | none => s.giveUp (ofString "Illegal mode: " ++ word)

end GoldenFiles.Shell
