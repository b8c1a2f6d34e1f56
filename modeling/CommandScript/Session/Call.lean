import CommandScript.Session.Run

/-!
# Calls on a session

The life of a session is a sequence of calls: single readings, runs, pauses, runs that close the
session behind them, and closings. Each call takes the session and the executor's state to those
after it, also when something escapes from it.
-/
namespace CommandScript.Session

variable {π σ : Type}

/-- A **call** on a session. -/
inductive Call where
  /-- Read one command. -/
  | read
  /-- Run the session. -/
  | run
  /-- Run the session as a pause with a name. -/
  | pause (prompt : Text)
  /-- Run the session and close it, whatever the run comes to. -/
  | runAndClose
  /-- Close the session. -/
  | close
  deriving DecidableEq, Repr

/-- What a call gives back. -/
inductive Answer (π : Type) where
  /-- The command that was read. -/
  | command (text : Text)
  /-- What the run came to. -/
  | summary (s : Summary π)
  /-- Nothing. -/
  | done

/-- Makes a call. -/
def call (x : Executor π σ) (nesting : Nesting π σ) (s : Session π) (state : σ) :
    Call → Traced σ (Except Escape (Answer π) × Session π)
  | .read =>
    match s.readCommand with
    | .ok (command, records, next) =>
      ⟨(.ok (.command command), next), state, records.map Event.logged⟩
    | .error e => ⟨(.error e, s), state, []⟩
  | .run =>
    let ran := s.run x nesting state
    ⟨(ran.value.1.map .summary, ran.value.2), ran.state, ran.trace⟩
  | .pause prompt =>
    let ran := s.pause x nesting prompt state
    ⟨(ran.value.1.map .summary, ran.value.2), ran.state, ran.trace⟩
  | .runAndClose =>
    let ran := s.run x nesting state
    ⟨(ran.value.1.map .summary, ran.value.2.close), ran.state, ran.trace⟩
  | .close => ⟨(.ok .done, s.close), state, []⟩

end CommandScript.Session
