/-!
# Control sequences

A terminal is steered by sequences that begin with an escape character and
leave nothing on the screen. One that goes on with a bracket ends with the
first byte from `@` to `~`; one that goes on with a closing bracket is a command
to the system and ends with a bell or with an escape and a backslash; any other
is over with the character behind the escape. A sequence that is not finished
reaches to the end of the text.
-/

namespace GoldenFiles.Text

/-- Where a reader stands: outside all sequences, behind an escape character,
in a sequence, or in a system command, where it matters whether the last
character was an escape. -/
inductive SequenceState where
  | outside
  | escaped
  | sequence
  | command (escapeRead : Bool)
  deriving DecidableEq, Repr

namespace SequenceState

/-- The state behind one more character. -/
def next : SequenceState → Char → SequenceState
  | .outside, c => if c = '\x1b' then .escaped else .outside
  | .escaped, c =>
      if c = '[' then .sequence else if c = ']' then .command false else .outside
  | .sequence, c => if '@' ≤ c ∧ c ≤ '~' then .outside else .sequence
  | .command escapeRead, c =>
      if c = '\x07' ∨ (escapeRead ∧ c = '\\') then .outside else .command (c = '\x1b')

/-- Whether a character read in a state is shown. -/
def shows (state : SequenceState) (c : Char) : Bool := state = .outside && c ≠ '\x1b'

end SequenceState

/-- The characters of a text, each with whether it is shown. -/
def markedFrom (state : SequenceState) : List Char → List (Char × Bool)
  | [] => []
  | c :: rest => (c, state.shows c) :: markedFrom (state.next c) rest

/-- The characters of a text, each with whether it is shown. -/
def marked (text : List Char) : List (Char × Bool) := markedFrom .outside text

/-- The characters of a text that are shown. -/
def shown (text : List Char) : List Char := ((marked text).filter (·.2)).map (·.1)

/-- Marking changes no character. -/
@[simp] theorem map_fst_markedFrom (state : SequenceState) (text : List Char) :
    (markedFrom state text).map (·.1) = text := by
  induction text generalizing state with
  | nil => rfl
  | cons c rest ih => simp [markedFrom, ih]

end GoldenFiles.Text
