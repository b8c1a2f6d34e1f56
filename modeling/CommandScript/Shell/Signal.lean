import CommandScript.Shell.Number

/-!
# Signals

The signals that a shell knows by number and by name. More events stand beside them for which a
shell can have something to run: its end, the failure of a command, every command, and the end of a
function.
-/
namespace CommandScript.Shell.Signal

/-- The names of the signals, each at the place of its number. -/
def names : List String := [
  "EXIT", "HUP", "INT", "QUIT", "ILL", "TRAP", "ABRT", "BUS", "FPE", "KILL", "USR1", "SEGV",
  "USR2", "PIPE", "ALRM", "TERM", "STKFLT", "CHLD", "CONT", "STOP", "TSTP", "TTIN", "TTOU", "URG",
  "XCPU", "XFSZ", "VTALRM", "PROF", "WINCH", "IO", "PWR", "SYS"]

/-- The number of the first of the signals without a meaning of their own. -/
def firstSpare : Nat := 34

/-- The number of the last of them. -/
def lastSpare : Nat := 64

/-- The number that stands for the end of a shell. -/
def ending : Nat := 0

/-- The number that stands for every command. -/
def command : Nat := 65

/-- The number that stands for the failure of a command. -/
def failure : Nat := 66

/-- The number that stands for the end of a function. -/
def leaving : Nat := 67

/-- The signals that end no process. -/
def harmless : List Nat := [0, 17, 18, 23, 28]

/-- The signal of a broken pipe. -/
def pipe : Nat := 13

/-- The signal of an interruption. -/
def interruption : Nat := 2

/-- The signal that a shell of the extended language does not heed. -/
def quit : Nat := 3

/-- The signal for a use of memory that is not allowed. -/
def fault : Nat := 11

/-- The signal that nothing can hold off. -/
def kill : Nat := 9

/-- The signal of `kill` when none is given. -/
def usual : Nat := 15

/-- The short name of a signal without a meaning of its own. -/
def spareName (n : Nat) : String :=
  if n = firstSpare then "RTMIN" else if n = lastSpare then "RTMAX"
  else if n ≤ 49 then "RTMIN+" ++ toString (n - firstSpare)
  else "RTMAX-" ++ toString (lastSpare - n)

/-- The short name of a signal or another event. -/
def name? (n : Nat) : Option String :=
  if n = command then some "DEBUG"
  else if n = failure then some "ERR"
  else if n = leaving then some "RETURN"
  else if firstSpare ≤ n ∧ n ≤ lastSpare then some (spareName n)
  else names[n]?

/-- The short name of a signal or another event, as a text. -/
def name (n : Nat) : Text := ((name? n).getD (toString n)).toList

/-- Every signal and other event that can have something to run, in order. -/
def every : List Nat := List.range 68

/-- The number of a signal that is given by its number or its name. -/
def number? (t : Text) : Option Nat :=
  if isDigits t then (some (Text.digitsValue t)).filter fun n ↦ (name? n).isSome && n < 65
  else
    let upper := t.map Char.toUpper
    let short := (Text.dropStart? "SIG".toList upper).getD upper
    if short.isEmpty then none else every.find? fun n ↦ (name? n).map String.toList == some short

/-- The name of a signal as a shell lists it. -/
def fullName (n : Nat) : Text :=
  if n = ending ∨ command ≤ n then name n else "SIG".toList ++ name n

/-- What is said when a signal has ended a process. -/
def description (n : Nat) : String :=
  ([(1, "Hangup"), (2, ""), (3, "Quit"), (4, "Illegal instruction"), (5, "Trace/breakpoint trap"),
    (6, "Aborted"), (7, "Bus error"), (8, "Floating point exception"), (9, "Killed"),
    (10, "User defined signal 1"), (11, "Segmentation fault"), (12, "User defined signal 2"),
    (13, ""), (14, "Alarm clock"), (15, "Terminated")].lookup n).getD
    ("Unknown signal " ++ toString n)

end CommandScript.Shell.Signal
