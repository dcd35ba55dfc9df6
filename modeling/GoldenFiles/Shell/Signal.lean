import GoldenFiles.Program.Number

/-!
# Signals

A signal has a number and a name. Unless something else is to be done on it, it
ends the process that it is sent to, and the shell that waits for that process
says so.
-/

namespace GoldenFiles.Shell

open Program (Text ofString)

/-- The signals: their numbers, their names, and what is said of a program that
one of them has ended. -/
def signals : List (Nat × String × String) :=
  [(0, "EXIT", ""), (1, "HUP", "Hangup"), (2, "INT", ""), (3, "QUIT", "Quit"),
    (4, "ILL", "Illegal instruction"), (5, "TRAP", "Trace/breakpoint trap"),
    (6, "ABRT", "Aborted"), (7, "BUS", "Bus error"), (8, "FPE", "Floating point exception"),
    (9, "KILL", "Killed"), (10, "USR1", "User defined signal 1"),
    (11, "SEGV", "Segmentation fault"), (12, "USR2", "User defined signal 2"), (13, "PIPE", ""),
    (14, "ALRM", "Alarm clock"), (15, "TERM", "Terminated"), (16, "16", "Stack fault"),
    (17, "CHLD", ""), (18, "CONT", ""), (19, "STOP", ""), (20, "TSTP", ""), (21, "TTIN", ""),
    (22, "TTOU", ""), (23, "URG", ""), (24, "XCPU", "CPU time limit exceeded"),
    (25, "XFSZ", "File size limit exceeded"), (26, "VTALRM", "Virtual timer expired"),
    (27, "PROF", "Profiling timer expired"), (28, "WINCH", ""), (29, "IO", "I/O possible"),
    (30, "PWR", "Power failure"), (31, "SYS", "Bad system call"), (32, "32", "Unknown signal 32"),
    (33, "33", "Unknown signal 33")]

/-- The greatest number of a signal. -/
def greatestSignal : Nat := 64

/-- The name of a signal. Those from the first to the last one that are free for
any use are counted from the nearer of the two. -/
def signalName (signal : Nat) : Text :=
  match signals.lookup signal with
  | some (name, _) => name.toList
  | none =>
      if signal = 34 then "RTMIN".toList
      else if signal < 50 then "RTMIN+".toList ++ Nat.toDigits 10 (signal - 34)
      else if signal < 64 then "RTMAX-".toList ++ Nat.toDigits 10 (64 - signal)
      else "RTMAX".toList

/-- The line about a program that a signal has ended. -/
def notice (signal : Nat) : Text :=
  match signals.lookup signal with
  | some (_, "") => []
  | some (_, text) => ofString (text ++ "\n")
  | none => ofString "Real-time signal " ++ Nat.toDigits 10 (signal - 34) ++ ['\n']

/-- The signal of a number or a name, in letters of either case. -/
def signal? (text : Text) : Option Nat :=
  match Digits.number? text with
  | some n => if n ≤ greatestSignal then some n else none
  | none => (List.range (greatestSignal + 1)).find? fun n => signalName n = text.map Char.toUpper

/-- Whether a signal does nothing where no trap is set for it. -/
def isIgnored (signal : Nat) : Bool := signal ∈ [0, 17, 18, 23, 28]

/-- Whether a signal keeps a process from going on. -/
def isPausing (signal : Nat) : Bool := signal ∈ [19, 20, 21, 22]

end GoldenFiles.Shell
