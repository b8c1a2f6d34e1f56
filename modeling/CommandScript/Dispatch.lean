import CommandScript.Executor

/-!
# Dispatching one command

A command is given to the executor exactly once, and its outcome is judged: a code is sorted into a
status, and a status that is no success rejects the command. What is logged and printed about it
follows from the judgement alone.
-/
namespace CommandScript

/-- What dispatching a command comes to. -/
inductive Dispatched where
  /-- The command succeeded. -/
  | accepted (status : Status)
  /-- The executor failed at a command without a code. -/
  | failed (command reason : Text)
  /-- The executor refused the command. -/
  | rejected (rejection : Rejection)
  /-- Something else went wrong. -/
  | escaped (e : Escape)
  deriving DecidableEq, Repr

namespace Dispatched

/-- The judgement of an outcome. -/
def ofOutcome (command : Text) : Outcome → Dispatched
  | .failed reason => .failed command reason
  | .escaped e => .escaped e
  | .code n =>
    match (Status.ofCode n).rejection? command with
    | none => .accepted (Status.ofCode n)
    | some rejection => .rejected rejection

/-- The line that tells which parameter of a command is refused. -/
def refusedParameter (r : Rejection) : Text :=
  "(".toList ++ (toString r.parameterIndex).toList ++ ") <".toList ++ r.command ++ ">".toList

/-- What is logged and printed about a judgement. -/
def events (command : Text) : Dispatched → Trace
  | .accepted _ => [.logged (.plain .debug ("command ok: ".toList ++ command))]
  | .failed _ reason =>
    [.logged (.plain .error
      ("executor failed on <".toList ++ command ++ ">: ".toList ++ reason))]
  | .rejected r =>
    .logged (.plain .error r.message) ::
      if r.cause = .illegalParameter then [.printed .alert (refusedParameter r)] else []
  | .escaped _ => []

/-- The message of the error in which a judgement ends; a success has none. -/
def message? : Dispatched → Option Text
  | .accepted _ => none
  | .failed command reason => some (command ++ ": ".toList ++ reason)
  | .rejected r => some r.message
  | .escaped e => some e.message

end Dispatched

variable {π σ : Type}

/-- Dispatches one command to an executor. -/
def Executor.dispatch (x : Executor π σ) (nesting : Nesting π σ) (command : Text) (state : σ) :
    Traced σ Dispatched :=
  let reply := (x.apply state command).complete nesting
  let judged := Dispatched.ofOutcome command reply.value
  ⟨judged, reply.state, .applied command :: reply.trace ++ judged.events command⟩

/-- Dispatches commands to an executor, one after another. -/
def Executor.dispatchAll (x : Executor π σ) (nesting : Nesting π σ) :
    σ → List Text → List (Traced σ Dispatched)
  | _, [] => []
  | state, command :: rest =>
    let deed := x.dispatch nesting command state
    deed :: x.dispatchAll nesting deed.state rest

end CommandScript
