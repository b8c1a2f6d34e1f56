import CommandScript.Log.Handler
import CommandScript.Text.UpperCase

/-!
# Configuring the log

At most one handler is installed at a time. Configuring takes the name of a level, in any case, and
the name of a profile. When these are what was configured last, nothing happens; otherwise the
handler in force is taken away, and a new one is put in its place if the level is known. What was
configured last is remembered only when that succeeds: after a failure no handler is left, and
asking for the remembered configuration again does not bring one back.
-/
namespace CommandScript.Log

/-- The name of the profile that writes the console form. -/
def consoleProfile : Text := "console".toList

/-- The name of the profile that is meant when none is given. -/
def defaultProfile : Text := "default".toList

/-- The name of the level that is meant when none is given. -/
def defaultLevel : Text := "INFO".toList

/-- The state of the log. -/
structure Configuration where
  /-- The handler in force. -/
  handler : Option Handler
  /-- The profile and the level that were configured last. -/
  remembered : Option (Text × Text)
  deriving DecidableEq, Repr

namespace Configuration

/-- Nothing is configured and no handler is installed. -/
def empty : Configuration := ⟨none, none⟩

/-- Nothing is configured, and the handler of the start is installed. -/
def atStart : Configuration := ⟨some .atStart, none⟩

/-- The form that a profile writes: every profile but the console one is plain. -/
def formOf (profile : Text) : Form := if profile = consoleProfile then .console else .plain

/-- The message about a level that is not known. -/
def unknownLevel (level : Text) : Text :=
  "Level '".toList ++ level ++ "' does not exist".toList

/-- Configures the log for a level and a profile. The error is the name of the level, in upper
case, when there is no such level. -/
def configure (c : Configuration) (level profile : Text) : Except Text Unit × Configuration :=
  let level := Text.upper level
  if c.remembered = some (profile, level) then (.ok (), c)
  else match Level.ofName? level with
    | none => (.error level, { c with handler := none })
    | some threshold => (.ok (), ⟨some ⟨formOf profile, threshold⟩, some (profile, level)⟩)

/-- What is written for a record, and where. -/
def write (c : Configuration) (width : Nat) (r : Record) : Option (Output × Text) :=
  c.handler.bind fun h ↦ h.write width r

end Configuration

end CommandScript.Log
