import CommandScript.Reader

/-!
# Listing the commands of a script

A listing reads a script up to its first exit command and runs nothing. `readings` gives every
reading on the way, with the one that gives the exit command as the last.
-/
namespace CommandScript.Reader

/-- The readings from a reader on, up to and including the first that gives the exit command. -/
def readings (r : Reader) : List Reading :=
  let reading := r.read
  if h : reading.command = exitCommand then [reading]
  else
    have := r.length_unread_lt_of_command_ne h
    reading :: readings reading.reader
termination_by r.unread.length

/-- The commands of the script from a reader on, comments included, before the first exit
command. -/
def listing (r : Reader) : List Text :=
  (r.readings.map Reading.command).filter (· ≠ exitCommand)

end CommandScript.Reader
