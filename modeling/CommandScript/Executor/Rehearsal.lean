import CommandScript.Executor

/-!
# The rehearsal executor

It carries nothing out and answers from a list of prepared actions, so that a script can be
rehearsed: every code, every failure, and scripts that run other scripts. A command has a list of
actions, of which the first is used up by each answer until only the last is left.
-/
namespace CommandScript

/-- An **action**: what the rehearsal does for one command. The first of failure, breakdown and
script that is present decides, and the code counts when none is. -/
structure Action (π : Type) where
  /-- The verbose level to take on first. -/
  verboseLevel : Option Int
  /-- A failure to report. -/
  failure : Option Text
  /-- A breakdown to suffer. -/
  breakdown : Option Text
  /-- Another script to run. -/
  script : Option (Request π)
  /-- The code to answer with. -/
  code : Int

/-- The action that answers with a code and does nothing else. -/
def Action.ofCode {π : Type} (code : Int) : Action π := ⟨none, none, none, none, code⟩

/-- The state of a rehearsal. -/
structure RehearsalState (π : Type) where
  /-- The verbose level. -/
  verboseLevel : Int
  /-- The action for commands without actions of their own. -/
  fallback : Action π
  /-- The actions that are left for each command. -/
  actions : List (Text × List (Action π))

namespace RehearsalState

variable {π : Type}

/-- The actions left when one has been taken. -/
def advance : List (Action π) → List (Action π)
  | _ :: next :: rest => next :: rest
  | actions => actions

/-- The action for a command, and the state in which it has been taken. -/
def take (s : RehearsalState π) (command : Text) : Action π × RehearsalState π :=
  match s.actions.lookup command with
  | some (action :: rest) =>
    (action, { s with actions := s.actions.map fun entry ↦
      if entry.1 = command then (command, advance (action :: rest)) else entry })
  | _ => (s.fallback, s)

/-- The code that tells how a script ended which an action ran. -/
def codeOfSummary (summary : Summary π) : Int :=
  match summary.error with
  | none => Status.successCode
  | some rejection => rejection.status.code

/-- The reply of an action in a state. -/
def reply (s : RehearsalState π) (action : Action π) : Reply π (RehearsalState π) :=
  match action.failure, action.breakdown, action.script with
  | some reason, _, _ => .answer s (.failed reason)
  | none, some message, _ => .answer s (.escaped (.breakdown message))
  | none, none, some request =>
    .nest s request fun s result ↦
      match result with
      | .ok summary => .answer s (.code (codeOfSummary summary))
      | .error e => .answer s (.escaped e)
  | none, none, none => .answer s (.code action.code)

end RehearsalState

/-- The executor that answers from prepared actions. -/
def Executor.rehearsal {π : Type} : Executor π (RehearsalState π) where
  verboseLevel := RehearsalState.verboseLevel
  octets? _ _ := none
  apply s command :=
    let (action, s) := s.take command
    let s := { s with verboseLevel := action.verboseLevel.getD s.verboseLevel }
    s.reply action

end CommandScript
