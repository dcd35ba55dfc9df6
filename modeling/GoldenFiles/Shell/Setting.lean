import GoldenFiles.Program.Process

/-!
# Settings of a shell

A shell has settings that are on or off. Each has a name, and most have a letter
by which they can be turned on when the shell is started and be asked for later.
-/

namespace GoldenFiles.Shell

open Program (Text)

/-- Something about a shell that is on or off. -/
inductive Setting where
  /-- A command that fails ends the shell. -/
  | errexit
  /-- Words are not taken for patterns of names of files. -/
  | noglob
  | ignoreeof
  | interactive
  | monitor
  /-- Commands are read and not run. -/
  | noexec
  /-- The script is what there is to read. -/
  | stdin
  /-- Commands are shown before they are run. -/
  | xtrace
  /-- Lines are shown when they are read. -/
  | verbose
  | vi
  | emacs
  /-- Files that are there are not overwritten. -/
  | noclobber
  /-- Programs are given all variables. -/
  | allexport
  | notify
  /-- Parameters without a value are a mistake. -/
  | nounset
  | privileged
  | nolog
  | debug
  deriving DecidableEq, Repr

namespace Setting

/-- The name and the letter of a setting. -/
def label : Setting → String × Option Char
  | errexit => ("errexit", some 'e')
  | noglob => ("noglob", some 'f')
  | ignoreeof => ("ignoreeof", some 'I')
  | interactive => ("interactive", some 'i')
  | monitor => ("monitor", some 'm')
  | noexec => ("noexec", some 'n')
  | stdin => ("stdin", some 's')
  | xtrace => ("xtrace", some 'x')
  | verbose => ("verbose", some 'v')
  | vi => ("vi", some 'V')
  | emacs => ("emacs", some 'E')
  | noclobber => ("noclobber", some 'C')
  | allexport => ("allexport", some 'a')
  | notify => ("notify", some 'b')
  | nounset => ("nounset", some 'u')
  | privileged => ("privileged", some 'p')
  | nolog => ("nolog", none)
  | debug => ("debug", none)

/-- All settings, in the order in which they are listed. -/
def all : List Setting :=
  [errexit, noglob, ignoreeof, interactive, monitor, noexec, stdin, xtrace, verbose, vi, emacs,
    noclobber, allexport, notify, nounset, privileged, nolog, debug]

/-- The setting with a letter. -/
def ofLetter? (c : Char) : Option Setting := all.find? (·.label.2 = some c)

/-- The setting with a name. -/
def ofName? (name : Text) : Option Setting := all.find? (·.label.1.toList = name)

/-- The letters of settings that are on, those that are listed last in front. -/
def letters (on : List Setting) : Text := (all.reverse.filter on.contains).filterMap (·.label.2)

/-- A name, followed by what a list of settings says about it. -/
def listed (on : List Setting) : Text :=
  let line (s : Setting) : Text :=
    let name := s.label.1.toList
    let gap := List.replicate (16 - name.length) ' '
    name ++ gap ++ (if on.contains s then "on" else "off").toList ++ ['\n']
  "Current option settings\n".toList ++ all.flatMap line

/-- The commands that make the settings what they are. -/
def restoring (on : List Setting) : Text :=
  all.flatMap fun s =>
    "set ".toList ++ [if on.contains s then '-' else '+', 'o', ' '] ++ s.label.1.toList ++ ['\n']

/-- Settings with one of them turned on or off. -/
def turned (s : Setting) (on : Bool) (settings : List Setting) : List Setting :=
  if on then s :: settings.filter (· ≠ s) else settings.filter (· ≠ s)

end Setting

end GoldenFiles.Shell
