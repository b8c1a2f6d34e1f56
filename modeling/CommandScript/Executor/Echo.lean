import CommandScript.Executor

/-!
# The echo executor

It prints every command, remembers it, and reports success.
-/
namespace CommandScript

/-- The state of an echo executor. -/
structure EchoState where
  /-- The verbose level. -/
  verboseLevel : Int
  /-- The commands so far, in order. -/
  history : List Text
  deriving DecidableEq, Repr

/-- The executor that prints commands. -/
def Executor.echo {π : Type} : Executor π EchoState where
  verboseLevel := EchoState.verboseLevel
  octets? _ _ := none
  apply state command :=
    .print command
      (.answer { state with history := state.history ++ [command] } (.code Status.successCode))

end CommandScript
