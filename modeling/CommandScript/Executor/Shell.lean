import CommandScript.Executor
import CommandScript.Text.Lines

/-!
# The shell executor

It hands every command to a shell of the host and turns the way in which the shell ends into a
status code. The host is a parameter: a `Launcher` says what running a command line in a directory
comes to. The two outputs of a command have to be UTF-8; together, with unified line ends and
without the blanks at the ends, they are logged while the executor is verbose.
-/
namespace CommandScript

/-- What launching a command comes to. -/
inductive Launched where
  /-- The command could not be started. -/
  | notStarted (reason : Text)
  /-- The command ended with a return code, which is negative when a signal ended it, and wrote to
  its two outputs. -/
  | ended (returnCode : Int) (out err : List UInt8)
  deriving DecidableEq, Repr

/-- A **launcher** runs command lines on a host with states in `η`, in the working directory or in
another directory. -/
structure Launcher (η : Type) where
  /-- Runs one command line. -/
  launch : η → Option Path → Text → η × Launched
  /-- What the file of a number holds. -/
  octets? : η → Nat → Option (List UInt8)

/-- The state of a shell executor. -/
structure ShellState (η : Type) where
  /-- The state of the host. -/
  host : η
  /-- The verbose level. -/
  verboseLevel : Int
  /-- The directory in which commands run, when it is not the working directory. -/
  directory : Option Path

namespace Shell

/-- The return code of a shell that finds no such command. -/
def notFoundReturn : Int := 127

/-- The return code of a shell that cannot execute a command. -/
def notExecutableReturn : Int := 126

/-- The status code of a return code. -/
def codeOfReturn (returnCode : Int) : Int :=
  if returnCode = 0 then Status.successCode
  else if returnCode = notFoundReturn then Status.notFoundCode
  else if returnCode = notExecutableReturn then Status.illegalStateCode
  else Status.outOfRangeCode + Int.emod returnCode 100

/-- What the two outputs of a command say, when both are UTF-8. -/
def report (out err : List UInt8) : Except Text.Utf8.Fault Text :=
  match Text.Utf8.decodeStrict out with
  | .error f => .error f
  | .ok o =>
    match Text.Utf8.decodeStrict err with
    | .error f => .error f
    | .ok e => .ok (Text.trim (Text.unifyLineEnds o ++ Text.unifyLineEnds e))

/-- Whether a null character keeps a command from being launched. -/
def holdsNull (directory : Option Path) (command : Text) : Bool :=
  command.contains '\x00' || (directory.map fun p ↦ p.text.contains '\x00').getD false

/-- The reply to a command that has been launched, in the state after it. -/
def replyTo {π η : Type} (state : ShellState η) : Launched → Reply π (ShellState η)
  | .notStarted reason => .answer state (.failed reason)
  | .ended returnCode out err =>
    match report out err with
    | .error f => .answer state (.escaped (.undecodable f))
    | .ok text =>
      let answer := .answer state (.code (codeOfReturn returnCode))
      if text ≠ [] ∧ 0 < state.verboseLevel then .log .info text answer else answer

end Shell

/-- The executor that runs commands in a shell. -/
def Executor.shell {π η : Type} (launcher : Launcher η) : Executor π (ShellState η) where
  verboseLevel := ShellState.verboseLevel
  octets? state file := launcher.octets? state.host file
  apply state command :=
    if Shell.holdsNull state.directory command then .answer state (.escaped .embeddedNull)
    else
      let launched := launcher.launch state.host state.directory command
      Shell.replyTo { state with host := launched.1 } launched.2

end CommandScript
