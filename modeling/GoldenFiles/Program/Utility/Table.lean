import GoldenFiles.Program.Utility.Concatenate
import GoldenFiles.Program.Utility.Files
import GoldenFiles.Program.Utility.Pause
import GoldenFiles.Program.Utility.Print

/-!
# The programs of the system

Which programs there are, by their names.
-/

namespace GoldenFiles.Program.Utility

/-- Ends well. -/
def succeed : Utility := fun _ p => (0, p)

/-- Ends badly. -/
def fail : Utility := fun _ p => (1, p)

/-- The programs and their names. -/
def all : List (String × Utility) :=
  [("true", succeed), ("false", fail), ("echo", echo), ("printf", printf), ("cat", cat),
    ("sleep", sleep), ("mkdir", mkdir), ("rm", rm), ("rmdir", rmdir), ("touch", touch),
    ("cp", cp), ("mv", mv), ("ln", ln), ("chmod", chmod), ("pwd", pwd),
    ("ls", ls)]

/-- The program with a name. -/
def find? (name : Text) : Option Utility :=
  (all.find? fun entry => ofString entry.1 = name).map Prod.snd

end GoldenFiles.Program.Utility
