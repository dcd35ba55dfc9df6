import GoldenFiles.CommandLine.Arguments
import GoldenFiles.CommandLine.Diagnostic
import GoldenFiles.Report.Document
import GoldenFiles.Report.Listing
import GoldenFiles.Run.Subprocess
import GoldenFiles.Run.Suite

/-!
# A run from the command line

A run has an exit code, leaves texts on two streams and may change the file
system. The report goes to the streams as it is written, so what stood on the
error stream before standard output failed stays there, with the diagnostic
behind it.
-/

namespace GoldenFiles.CommandLine

/-- What standard output is connected to. -/
structure Terminal where
  /-- Whether colours are wanted if the command line leaves that open. -/
  colors : Bool := false
  /-- Whether standard output can take no more. -/
  full : Bool := false
  deriving DecidableEq, Repr

/-- What a run leaves behind. -/
structure Outcome where
  code : Nat
  stdout : String := ""
  stderr : Bytes := []
  files : FileSystem

/-- Whether a report is coloured. -/
def Terminal.colored (terminal : Terminal) : ColorMode → Bool
  | .auto => terminal.colors
  | .always => true
  | .never => false

/-- What printing comes to: an error, if it failed, and both streams. -/
structure Printed where
  error : Option RunError := none
  stdout : String := ""
  stderr : String := ""
  deriving DecidableEq, Repr

/-- The error of standard output that can take no more. -/
def noSpace : RunError := .report (.os .noSpace)

/-- Whether a piece ends a line of standard output. Until then it is held back. -/
def reachesOutput : Stream × Piece → Bool
  | (.out, .text s) => s.toList.contains '\n'
  | _ => false

/-- Prints a report as text. -/
def printText (terminal : Terminal) (colored : Bool) (report : Styled) : Printed :=
  if terminal.full ∧ report.any reachesOutput then
    let before := report.takeWhile (!reachesOutput ·)
    { error := some noSpace, stderr := Styled.render .err colored before }
  else
    { stdout := if terminal.full then "" else Styled.render .out colored report
      stderr := Styled.render .err colored report }

/-- What is said of a path that cannot stand in a document. -/
def pathIsNoText : RunError := .report (.described "path contains invalid UTF-8 characters")

/-- Prints a report as a document. -/
def printDocument (terminal : Terminal) (s : Summary) : Printed :=
  match s.document? with
  | none => { error := some pathIsNoText }
  | some document =>
      if terminal.full then { error := some noSpace } else { stdout := document ++ "\n" }

/-- Prints the report of a run. -/
def print (a : Arguments) (terminal : Terminal) (s : Summary) (fs : FileSystem) : Printed :=
  match a.format with
  | .text => printText terminal (terminal.colored a.color) (s.listing fs a.diff)
  | .json => printDocument terminal s

/-- The exit code of a run that an error ended. -/
def errorCode : Nat := Status.infrastructureError.exitCode

/-- A run that an error ended before anything was printed. -/
def ended (e : RunError) (fs : FileSystem) : Outcome :=
  { code := errorCode, stderr := Utf8.encode (diagnostic e), files := fs }

/-- Runs the suite that arguments ask for with the executor that is made for
its settings, and prints the report. -/
def runWith (executor : Settings → Executor) (terminal : Terminal) (a : Arguments)
    (fs : FileSystem) (host : Host := {}) : Outcome :=
  match a.settings fs with
  | .error e => ended e fs
  | .ok s =>
      match runSuite s (executor s) { files := fs } host with
      | .error e => ended e fs
      | .ok (summary, state) =>
          let printed := print a terminal summary state.files
          let report := state.stderr ++ Utf8.encode printed.stderr
          match printed.error with
          | none =>
              { code := summary.status.exitCode
                stdout := printed.stdout
                stderr := report
                files := state.files }
          | some e =>
              { code := errorCode
                stdout := printed.stdout
                stderr := report ++ Utf8.encode (diagnostic e)
                files := state.files }

/-- Runs the suite that arguments ask for with the program that they name. -/
def run (launch : Launcher) (terminal : Terminal) (a : Arguments) (fs : FileSystem)
    (host : Host := {}) : Outcome :=
  runWith (·.executor launch) terminal a fs host

end GoldenFiles.CommandLine
