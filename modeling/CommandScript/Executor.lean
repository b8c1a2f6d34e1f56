import CommandScript.Event
import CommandScript.Path
import CommandScript.Status
import CommandScript.Text.Utf8

/-!
# Executors

An **executor** carries out commands. It is a state machine: `apply` takes its state and a command
to a `Reply`. Most replies are an outcome at once. A reply may also log or print something first,
or ask for another script to be run by the same executor and go on when that is done, any number of
times and to any depth.
-/
namespace CommandScript

/-- What stops a session that no rejection has stopped: something went wrong that is neither an
answer of the executor nor a failure that it reports. -/
inductive Escape where
  /-- The executor broke down with a message. -/
  | breakdown (message : Text)
  /-- A script that has to be read cannot be opened. -/
  | scriptUnreadable (path : Path)
  /-- A path or a command for the host holds a null character. -/
  | embeddedNull
  /-- The output of a command is not UTF-8. -/
  | undecodable (fault : Text.Utf8.Fault)
  /-- A script is read that has been closed. -/
  | closedScript
  /-- Scripts run each other too deeply. -/
  | tooDeep
  deriving DecidableEq, Repr

/-- The message of an escape. -/
def Escape.message : Escape → Text
  | .breakdown message => message
  | .scriptUnreadable path => "Cannot open macro file ".toList ++ path.text
  | .embeddedNull => "embedded null byte".toList
  | .undecodable fault => fault.message
  | .closedScript => "I/O operation on closed file.".toList
  | .tooDeep => "scripts run each other too deeply".toList

/-- The **outcome** of one command. -/
inductive Outcome where
  /-- The executor answers with a code. -/
  | code (n : Int)
  /-- The executor reports a failure that has no code. -/
  | failed (reason : Text)
  /-- Something else went wrong. -/
  | escaped (e : Escape)
  deriving DecidableEq, Repr

/-- What one run of a session comes to. -/
structure Summary (π : Type) where
  /-- What the session hands back to its caller. -/
  previous : π
  /-- How many commands succeeded. -/
  commands : Nat
  /-- How many commands failed without stopping the session. -/
  warnings : Nat
  /-- The rejection that stopped the session, if one did. -/
  error : Option Rejection
  deriving DecidableEq, Repr

/-- Whether nothing was rejected. -/
def Summary.ok {π : Type} (s : Summary π) : Bool := s.error.isNone

/-- A **request** of an executor to run another script. -/
structure Request (π : Type) where
  /-- The path of the script. -/
  path : Path
  /-- What the session hands back. -/
  previous : π
  /-- The verbose level at which comments are printed. -/
  echoLevel : Int
  /-- Whether a script that cannot be opened is an error. -/
  strict : Bool
  /-- The name of the pause, for a session that runs as a pause. -/
  prompt : Option Text

/-- The **reply** of an executor to a command, with the state in which it leaves the executor. -/
inductive Reply (π σ : Type) where
  /-- The reply is complete. -/
  | answer (state : σ) (outcome : Outcome)
  /-- Something is logged before the rest of the reply. -/
  | log (level : Log.Level) (message : Text) (rest : Reply π σ)
  /-- Something is printed before the rest of the reply. -/
  | print (text : Text) (rest : Reply π σ)
  /-- Another script is run in the given state; the reply goes on with what that comes to. -/
  | nest (state : σ) (request : Request π)
      (resume : σ → Except Escape (Summary π) → Reply π σ)

/-- An **executor** with states in `σ`. -/
structure Executor (π σ : Type) where
  /-- The verbose level that a state has. -/
  verboseLevel : σ → Int
  /-- What a file holds that has been opened, where the executor may have changed it. -/
  octets? : σ → Nat → Option (List UInt8)
  /-- The reply to a command. -/
  apply : σ → Text → Reply π σ

/-- A way to run the scripts that replies ask for. -/
abbrev Nesting (π σ : Type) := Request π → σ → Traced σ (Except Escape (Summary π))

variable {π σ : Type}

/-- Carries a reply through to its outcome. -/
def Reply.complete (nesting : Nesting π σ) : Reply π σ → Traced σ Outcome
  | .answer state outcome => ⟨outcome, state, []⟩
  | .log level message rest => (rest.complete nesting).after [.logged (.plain level message)]
  | .print text rest => (rest.complete nesting).after [.printed .listing text]
  | .nest state request resume =>
    let inner := nesting request state
    ((resume inner.state inner.value).complete nesting).after inner.trace

end CommandScript
