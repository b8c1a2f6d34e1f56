import CommandScript.Console.Layout
import CommandScript.Log.Record

/-!
# Log handlers

A **handler** writes the records from a level upwards in one of three forms. In the plain form a
record is one entry on the error output, with its time, its level, the place that made it and its
script. The console form is a table on the standard output, the levels in its left column and the
messages wrapped in its right one. The start-up form is in force until logging is configured; it
shows no script.
-/
namespace CommandScript.Log

/-- The form in which a handler writes. -/
inductive Form where
  /-- One entry a record, with its script. -/
  | plain
  /-- A table of levels and messages. -/
  | console
  /-- One entry a record, without its script. -/
  | startUp
  deriving DecidableEq, Repr

/-- A **handler** of records. -/
structure Handler where
  /-- The form in which records are written. -/
  form : Form
  /-- The least level that is written. -/
  threshold : Level
  deriving DecidableEq, Repr

/-- One of the two outputs of a program. -/
inductive Output where
  /-- The standard output. -/
  | out
  /-- The error output. -/
  | err
  deriving DecidableEq, Repr

/-- The handler that is there before anything is configured. -/
def Handler.atStart : Handler := ⟨.startUp, .debug⟩

/-- What stands for the time of a record. -/
def timeMark : Text := "<time>".toList

/-- What stands for the place that made a record. -/
def placeMark : Text := "<where>".toList

/-- What stands for the script of a record that no session made. -/
def noScript : Text := "-".toList

/-- The bar between the parts of an entry. -/
def bar : Text := " | ".toList

/-- A record in the plain form. -/
def plainEntry (r : Record) : Text :=
  timeMark ++ bar ++ Text.padEnd 7 r.level.name ++ bar ++ placeMark ++ bar ++
    r.script.getD noScript ++ bar ++ r.message ++ ['\n']

/-- A record in the start-up form. -/
def startUpEntry (r : Record) : Text :=
  timeMark ++ bar ++ Text.padEnd 8 r.level.name ++ bar ++ placeMark ++ " - ".toList ++ r.message ++
    ['\n']

/-! ### The console form -/

/-- The columns that the level takes in a table with room enough: those of the longest name, and one
between it and the message. -/
def levelColumns : Nat := 9

/-- The columns of the two parts of a table, the level and the message. Where a table is too narrow
for both, the message keeps one column as long as it has anything to show. -/
def tableColumns (width : Nat) (message : Text) : Nat × Nat :=
  if levelColumns < width then (levelColumns, width - levelColumns)
  else if width ≤ 1 then (width, 0)
  else (width - 1, min 1 (Text.columns (Console.visible message)))

/-- What stands for the end of a name that is cut off. -/
def ellipsis : Char := '\u2026'

/-- The name of a level within a number of columns, the last of which stays free. -/
def levelCell : Nat → Text → Text
  | 0, _ => []
  | 1, _ => [' ']
  | room + 1, name =>
    (if name.length ≤ room then Text.padEnd room name else name.take (room - 1) ++ [ellipsis]) ++
      [' ']

/-- The rows of a table, given the left part of its first row, and the rows at the right. -/
def tableRows (left : Text) : List Text → List Text
  | [] => [left]
  | row :: rest => (left ++ row) :: rest.map (List.replicate left.length ' ' ++ ·)

/-- A record in the console form at a width. -/
def consoleEntry (width : Nat) (r : Record) : Text :=
  let (left, right) := tableColumns width r.message
  if width = 0 then []
  else (tableRows (levelCell left r.level.name)
    ((Console.rows right r.message).map (Text.padColumns right))).flatMap fun row ↦ row ++ ['\n']

/-- What a handler writes for a record, and where. A record below the threshold is not written. -/
def Handler.write (h : Handler) (width : Nat) (r : Record) : Option (Output × Text) :=
  if r.level.severity < h.threshold.severity then none
  else match h.form with
    | .plain => some (.err, plainEntry r)
    | .console => some (.out, consoleEntry width r)
    | .startUp => some (.err, startUpEntry r)

end CommandScript.Log
