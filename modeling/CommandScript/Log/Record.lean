import CommandScript.Text.Blank

/-!
# Log records

What the reader, the dispatcher and the sessions report as they work. A record has a level, a
message and, when a session makes it, the path of the script that the session runs.
-/
namespace CommandScript.Log

/-- The **levels** of records, from the least to the most severe. -/
inductive Level where
  /-- The finest detail. -/
  | trace
  /-- What a reader of the script may want to know. -/
  | debug
  /-- Ordinary progress. -/
  | info
  /-- Something has succeeded. -/
  | success
  /-- Something may be wrong. -/
  | warning
  /-- Something has failed. -/
  | error
  /-- Nothing can go on. -/
  | critical
  deriving DecidableEq, Repr

namespace Level

/-- Every level, in ascending order. -/
def all : List Level := [.trace, .debug, .info, .success, .warning, .error, .critical]

/-- How severe a level is. -/
def severity : Level → Nat
  | .trace => 5
  | .debug => 10
  | .info => 20
  | .success => 25
  | .warning => 30
  | .error => 40
  | .critical => 50

/-- The name of a level. -/
def name : Level → Text
  | .trace => "TRACE".toList
  | .debug => "DEBUG".toList
  | .info => "INFO".toList
  | .success => "SUCCESS".toList
  | .warning => "WARNING".toList
  | .error => "ERROR".toList
  | .critical => "CRITICAL".toList

/-- The level of a name, letter for letter. -/
def ofName? (t : Text) : Option Level := all.find? (·.name == t)

end Level

/-- A **record** of the log. -/
structure Record where
  /-- How severe it is. -/
  level : Level
  /-- What it says. -/
  message : Text
  /-- The path of the script whose session made it, if a session did. -/
  script : Option Text
  deriving DecidableEq, Repr

/-- A record that no session makes. -/
def Record.plain (level : Level) (message : Text) : Record := ⟨level, message, none⟩

end CommandScript.Log
