import CommandScript.Log.Record

/-!
# Events

Everything that a session does and that can be seen from outside, in the order in which it is done:
commands that reach the executor, log records, and texts that are printed. A list of events is a
**trace**; `Trace.commands`, `Trace.records` and `Trace.prints` read the three kinds off it again.
-/
namespace CommandScript

/-- Where a text is printed. -/
inductive Sink where
  /-- The listing: comments of the script and output of the executor. -/
  | listing
  /-- The alerts: parameters that are refused. -/
  | alert
  deriving DecidableEq, Repr

/-- One **event**. -/
inductive Event where
  /-- A command reaches the executor. -/
  | applied (command : Text)
  /-- A record is logged. -/
  | logged (record : Log.Record)
  /-- A text is printed. -/
  | printed (sink : Sink) (text : Text)
  deriving DecidableEq, Repr

/-- A **trace** is a list of events, in the order in which they were done. -/
abbrev Trace := List Event

namespace Trace

/-- The commands of a trace that reached the executor. -/
def commands (trace : Trace) : List Text :=
  trace.filterMap fun | .applied c => some c | _ => none

/-- The log records of a trace. -/
def records (trace : Trace) : List Log.Record :=
  trace.filterMap fun | .logged r => some r | _ => none

/-- What is printed in a trace, each text with its sink. -/
def prints (trace : Trace) : List (Sink × Text) :=
  trace.filterMap fun | .printed s t => some (s, t) | _ => none

end Trace

/-- A value that is reached by way of a trace, with the state in which it leaves the executor. -/
structure Traced (σ α : Type) where
  /-- The value. -/
  value : α
  /-- The state of the executor. -/
  state : σ
  /-- What was done on the way. -/
  trace : Trace

/-- The same value, reached after some events. -/
def Traced.after {σ α : Type} (t : Traced σ α) (before : Trace) : Traced σ α :=
  { t with trace := before ++ t.trace }

end CommandScript
