import CommandScript.Line
import CommandScript.Log.Record
import CommandScript.Text.Lines

/-!
# The command reader

A reader stands at a place in a script and reads **logical commands** from there. A command is the
bodies of successive lines, up to the first line that does not continue and by which there is
something to run; a comment line ends the reading at once, stands for itself, and drops what the
lines before it have given. Reading past the last line gives `exitCommand`, again and again, which
is also what a script says to stop a session early.

The reader looks at no line beyond the one that ends the command: what is left unread is a final
part of the lines (`unread_suffix`), shorter whenever there was a line to read.
-/
namespace CommandScript

/-- The command that ends a session. -/
def exitCommand : Text := "exit".toList

/-- A **reader** of commands. -/
structure Reader where
  /-- The physical lines that are still to be read. -/
  unread : List Text
  /-- How many physical lines have been read. -/
  line : Nat
  deriving DecidableEq, Repr

/-- What one reading gives. -/
structure Reading where
  /-- The command. -/
  command : Text
  /-- The log records made on the way. -/
  records : List Log.Record
  /-- The reader after it. -/
  reader : Reader
  deriving DecidableEq, Repr

namespace Reader

/-- A reader at the start of a text. -/
def ofText (t : Text) : Reader := ⟨Text.physicalLines t, 0⟩

/-- The command that collected tokens make. -/
def commandOf (tokens : List Text) : Text := Text.trim (Token.join tokens)

/-- The command at the end of a script: what is collected, or else the exit command. -/
def lastCommand (tokens : List Text) : Text :=
  if commandOf tokens = [] then exitCommand else commandOf tokens

/-- A message about a line. -/
def aboutLine (line : Nat) (message : Text) : Text :=
  "line ".toList ++ (toString line).toList ++ ": ".toList ++ message

/-- The record of a comment line that drops collected tokens. -/
def dropRecord (line : Nat) : Log.Record :=
  .plain .debug (aboutLine line "comment drops pending continuation".toList)

/-- The record of a line with tokens after its continuation marker. -/
def excessRecord (line : Nat) : Log.Record :=
  .plain .warning
    (aboutLine line "Unexpected character after line continuation character.".toList)

/-- The records of a line that is no comment, by how it ends. -/
def endingRecords (line : Nat) : Line.Ending → List Log.Record
  | .continuedEarly => [excessRecord line]
  | _ => []

/-- Reads on through the given lines, the first of which follows line number `line`, with the
tokens collected so far. -/
def readOn (line : Nat) (collected : List Text) : List Text → Reading
  | [] => ⟨lastCommand collected, [], ⟨[], line⟩⟩
  | raw :: rest =>
    match Line.content raw with
    | .comment text =>
      ⟨text, if collected.isEmpty then [] else [dropRecord (line + 1)], ⟨rest, line + 1⟩⟩
    | .body tokens ending =>
      if ending = .complete ∧ collected ++ tokens ≠ [] then
        ⟨commandOf (collected ++ tokens), [], ⟨rest, line + 1⟩⟩
      else
        let next := readOn (line + 1) (collected ++ tokens) rest
        { next with records := endingRecords (line + 1) ending ++ next.records }

/-- Reads one command. -/
def read (r : Reader) : Reading := readOn r.line [] r.unread

/-- What is left unread is a final part of the lines. -/
theorem unread_readOn_suffix (line : Nat) (collected lines : List Text) :
    (readOn line collected lines).reader.unread <:+ lines := by
  induction lines generalizing line collected with
  | nil => simp [readOn]
  | cons raw rest ih =>
    rw [readOn]
    split
    · exact List.suffix_cons _ _
    · split
      · exact List.suffix_cons _ _
      · exact (ih _ _).trans (List.suffix_cons _ _)

/-- What is unread after a reading is a final part of what was unread before it. -/
theorem unread_suffix (r : Reader) : r.read.reader.unread <:+ r.unread :=
  unread_readOn_suffix _ _ _

/-- A reading of a reader with a line to read consumes a line. -/
theorem length_unread_read_lt (r : Reader) (h : r.unread ≠ []) :
    r.read.reader.unread.length < r.unread.length := by
  obtain ⟨lines, line⟩ := r
  cases lines with
  | nil => exact absurd rfl h
  | cons raw rest =>
    simp only [read, readOn, List.length_cons]
    split
    · simp
    · split
      · simp
      · exact Nat.lt_succ_of_le (unread_readOn_suffix _ _ _).length_le

/-- With nothing left to read the command is the exit command. -/
theorem command_read_of_unread_eq_nil (r : Reader) (h : r.unread = []) :
    r.read.command = exitCommand := by
  simp [read, h, readOn, lastCommand, commandOf, Token.join, Text.trim, Text.trimStart,
    Text.trimEnd]

/-- A reading counts the lines that it consumes. -/
theorem line_add_length_unread_readOn (line : Nat) (collected lines : List Text) :
    (readOn line collected lines).reader.line + (readOn line collected lines).reader.unread.length =
      line + lines.length := by
  induction lines generalizing line collected with
  | nil => simp [readOn]
  | cons raw rest ih =>
    rw [readOn]
    split
    · simp only [List.length_cons]
      omega
    · split
      · simp only [List.length_cons]
        omega
      · refine (ih _ _).trans ?_
        simp only [List.length_cons]
        omega

/-- A reading that does not give the exit command consumes a line. -/
theorem length_unread_lt_of_command_ne (r : Reader) (h : r.read.command ≠ exitCommand) :
    r.read.reader.unread.length < r.unread.length :=
  r.length_unread_read_lt fun hnil ↦ h (r.command_read_of_unread_eq_nil hnil)

end Reader

end CommandScript
