/-!
# What can be said on the command line

A switch says all by its name; a parameter takes a value. Both have a long name
and some have a letter as well. Everything else is an error of usage, and so are,
in the sense that nothing is run, the switches that ask for help or the version.
-/

namespace GoldenFiles.CommandLine

/-- An option that takes no value. -/
inductive Switch where
  | diff
  | verbose
  | help
  | version
  deriving DecidableEq, Repr

/-- An option that takes a value. -/
inductive Parameter where
  | fixtures
  | output
  | program
  | arg
  | inputMarker
  | outputMarker
  | inputExtension
  | expectedExtension
  | jobs
  | timeout
  | filter
  | stderr
  | format
  | color
  | config
  deriving DecidableEq, Repr

/-- An option. -/
inductive Flag where
  | switch (s : Switch)
  | parameter (p : Parameter)
  deriving DecidableEq, Repr

namespace Flag

/-- All options. -/
def all : List Flag :=
  [.switch .diff, .switch .verbose, .switch .help, .switch .version, .parameter .fixtures,
    .parameter .output, .parameter .program, .parameter .arg, .parameter .inputMarker,
    .parameter .outputMarker, .parameter .inputExtension, .parameter .expectedExtension,
    .parameter .jobs, .parameter .timeout, .parameter .filter, .parameter .stderr,
    .parameter .format, .parameter .color, .parameter .config]

/-- The long name of an option, which two dashes go before. -/
def long : Flag → String
  | switch .diff => "diff"
  | switch .verbose => "verbose"
  | switch .help => "help"
  | switch .version => "version"
  | parameter .fixtures => "fixtures"
  | parameter .output => "output"
  | parameter .program => "program"
  | parameter .arg => "arg"
  | parameter .inputMarker => "input-marker"
  | parameter .outputMarker => "output-marker"
  | parameter .inputExtension => "input-ext"
  | parameter .expectedExtension => "expected-ext"
  | parameter .jobs => "jobs"
  | parameter .timeout => "timeout"
  | parameter .filter => "filter"
  | parameter .stderr => "stderr"
  | parameter .format => "format"
  | parameter .color => "color"
  | parameter .config => "config"

/-- The letter of an option, which one dash goes before. -/
def short? : Flag → Option Char
  | switch .verbose => some 'v'
  | switch .help => some 'h'
  | switch .version => some 'V'
  | parameter .fixtures => some 'd'
  | parameter .output => some 'o'
  | parameter .program => some 'p'
  | parameter .jobs => some 'j'
  | parameter .timeout => some 't'
  | parameter .config => some 'c'
  | _ => none

/-- The option with a long name. -/
def ofLong? (long : List Char) : Option Flag := all.find? (·.long.toList = long)

/-- The option with a letter. -/
def ofShort? (letter : Char) : Option Flag := all.find? (·.short? = some letter)

/-- The line of an option in the help text. -/
def helpLine (flag : Flag) : String :=
  let letter := match flag.short? with
    | some letter => "  -" ++ letter.toString ++ ", "
    | none => "      "
  let value := match flag with
    | switch _ => ""
    | parameter _ => " <VALUE>"
  letter ++ "--" ++ flag.long ++ value ++ "\n"

end Flag

/-- Why nothing is run. -/
inductive UsageError where
  | unknownArgument
  /-- A value is missing, or is none of the words that are allowed. -/
  | invalidValue
  /-- A value is no number, or a number that is too large. -/
  | valueValidation
  /-- A switch is given a value. -/
  | tooManyValues
  /-- An option is given twice. -/
  | argumentConflict
  | displayHelp
  | displayVersion
  deriving DecidableEq, Repr

namespace UsageError

/-- The name of an error. -/
def name : UsageError → String
  | unknownArgument => "UnknownArgument"
  | invalidValue => "InvalidValue"
  | valueValidation => "ValueValidation"
  | tooManyValues => "TooManyValues"
  | argumentConflict => "ArgumentConflict"
  | displayHelp => "DisplayHelp"
  | displayVersion => "DisplayVersion"

/-- What is said of an error, or shown because it was asked for. -/
def message : UsageError → String
  | unknownArgument => "error: unexpected argument\n"
  | invalidValue => "error: missing or invalid value\n"
  | valueValidation => "error: invalid number\n"
  | tooManyValues => "error: unexpected value\n"
  | argumentConflict => "error: option given twice\n"
  | displayHelp => "Usage: goldcheck [OPTIONS]\n\n" ++ String.join (Flag.all.map Flag.helpLine)
  | displayVersion => "goldcheck 0.1.0\n"

/-- The exit code for an error. To be shown what was asked for is none. -/
def exitCode : UsageError → Nat
  | displayHelp | displayVersion => 0
  | _ => 2

end UsageError

end GoldenFiles.CommandLine
