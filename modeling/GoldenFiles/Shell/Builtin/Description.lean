import GoldenFiles.Shell.Builtin.Basic
import GoldenFiles.Sorting

/-!
# Commands about commands

They say what a name stands for, and make other names stand for texts. Lists of
names are in the order of a table with places that are computed from the names.
-/

namespace GoldenFiles.Shell

open Program (Text ofString)

/-- The sum that a place in a table is computed from. -/
def placeSum (name : Text) : Nat :=
  name.foldl (fun n c => n + c.toNat) ((name.headD '\u0000').toNat * 16)

/-! ## Aliases -/

/-- An alias and its text, as it can be defined again. -/
def aliasLine (name text : Text) : Text := name ++ '=' :: reusable text ++ ['\n']

/-- How many places the table of aliases has. -/
def aliasPlaces : Nat := 39

/-- A line of its own about a name, which says what is wrong with it. -/
def State.remark (s : State) (caller : String) (name : Text) (why : String) : State :=
  s.tell (ofString caller ++ [':', ' '] ++ name ++ ofString why ++ ['\n'])

/-- Makes names stand for texts, or shows for which ones they do. -/
def aliasBuiltin : Builtin := fun words s =>
  let s := s.done 0
  if words = [] then
    let listed := sortedBy (fun entry => placeSum entry.1 % aliasPlaces) s.aliases
    s.print (listed.flatMap fun (name, text) => aliasLine name text)
  else
    words.foldl (fun s word =>
      let name := word.take 1 ++ word.tail.takeWhile (· ≠ '=')
      if name.length < word.length then
        let text := word.drop (name.length + 1)
        if s.aliases.any (·.1 = name) then
          { s with aliases := s.aliases.map fun e => if e.1 = name then (name, text) else e }
        else { s with aliases := s.aliases ++ [(name, text)] }
      else
        match s.aliases.lookup name with
        | some text => s.print (aliasLine name text)
        | none => (s.remark "alias" name " not found").done 1) s

/-- Makes names stand for themselves again. -/
def unalias : Builtin := withOptions "a" fun given names s =>
  if given.has 'a' then { s with aliases := [] }.done 0
  else
    names.foldl (fun s name =>
      if s.aliases.any (·.1 = name) then
        { s with aliases := s.aliases.filter (·.1 ≠ name) }
      else (s.remark "unalias" name " not found").done 1) (s.done 0)

/-! ## What names stand for -/

/-- What a name stands for as a command. -/
inductive Meaning where
  | keyword
  | shorthand (text : Text)
  | function
  /-- The shell carries it out; with `special` a mistake ends the shell. -/
  | builtin (special : Bool)
  /-- The program at a path, which is `known` if it was looked for before. -/
  | program (path : Text) (known : Bool)
  | nothing
  deriving DecidableEq, Repr

/-- What a name stands for, where it is known what the shell carries out. -/
def State.meaning (s : State) (builtin? : Text → Option Bool) (name : Text) : Meaning :=
  if reservedWords.any (·.toList = name) then .keyword
  else
    match s.aliases.lookup name, (s.functions.lookup name).isSome, builtin? name with
    | some text, _, _ => .shorthand text
    | none, true, _ => .function
    | none, false, some special => .builtin special
    | none, false, none =>
        if name.contains '/' then
          let there := (s.process.files.stat (Program.pathOf name)).toOption.isSome ||
            (Program.image s.process name).toOption.isSome
          if there then .program name false else .nothing
        else
          match Program.programPath s.process s.searchPath name with
          | .ok path => .program path (s.found.contains name)
          | .error _ => .nothing

/-- What is said about a name. -/
def Meaning.sentence (name : Text) (m : Meaning) : Text :=
  let about (text : String) : Text := name ++ ofString text
  match m with
  | keyword => about " is a shell keyword"
  | shorthand text => about " is an alias for " ++ text
  | function => about " is a shell function"
  | builtin true => about " is a special shell builtin"
  | builtin false => about " is a shell builtin"
  | program path true => about " is a tracked alias for " ++ path
  | program path false => about " is " ++ path
  | nothing => about ": not found"

/-- A name as it can be used for what it stands for. -/
def Meaning.usage (name : Text) : Meaning → Text
  | shorthand text => "alias ".toList ++ aliasLine name text
  | program path _ => path ++ ['\n']
  | nothing => []
  | _ => name ++ ['\n']

/-- The shell after a name was looked for. -/
def State.afterSearch (s : State) (name : Text) (m : Meaning) : State :=
  match m with
  | .program _ false =>
      if name.contains '/' then s else { s with found := s.found ++ [name] }
  | _ => s

/-- Says what a name stands for, in a sentence or as it can be used. -/
def State.describe (s : State) (builtin? : Text → Option Bool) (sentence : Bool) (name : Text) :
    State :=
  let m := s.meaning builtin? name
  let text := if sentence then m.sentence name ++ ['\n'] else m.usage name
  let s := (s.print text).afterSearch name m
  if m = .nothing then s.done 127 else s

/-- Says what names stand for. -/
def typeBuiltin (builtin? : Text → Option Bool) : Builtin := fun names s =>
  names.foldl (·.describe builtin? true ·) (s.done 0)

/-- How many places the table of programs has. -/
def programPlaces : Nat := 31

/-- Shows which programs were found, looks for others, or forgets them all. -/
def hashBuiltin (builtin? : Text → Option Bool) : Builtin := withOptions "rv" fun given names s =>
  let s := s.done 0
  if given.has 'r' then { s with found := [] }
  else if names = [] then
    let listed := sortedBy (fun name => placeSum name % programPlaces) s.found
    let path (name : Text) : Text :=
      match Program.programPath s.process s.searchPath name with
      | .ok path => path ++ ['\n']
      | .error _ => []
    s.print (listed.flatMap path)
  else
    names.foldl (fun s name =>
      match s.meaning builtin? name with
      | .nothing => (s.complain (name ++ ofString ": not found")).done 1
      | m => s.afterSearch name m) s

end GoldenFiles.Shell
