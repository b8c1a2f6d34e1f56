import CommandScript.Proofs.WellFormed
import CommandScript.Session.Call

/-!
# One turn of a run

A run takes one **turn** for each command that it reads. What a turn can do is said here once, by
one equation for each kind of command: the exit command ends the run (`runFrom_of_exit`), a comment
is shown or not (`runFrom_of_isComment`), and any other command is dispatched, after which the run
goes on or ends by the judgement (`runFrom_of_dispatch`). No command is empty, so there is no fourth
kind.

A command may have changed the script, and then the run goes on with the script as its file holds it
by now.
-/
namespace CommandScript

variable {π σ : Type}

/-- Every code but that of a success makes a rejection of a command, and that code makes none. -/
theorem Status.rejection?_ofCode_eq_none_iff (n : Int) (command : Text) :
    (Status.ofCode n).rejection? command = none ↔ n = Status.successCode := by
  rw [Status.rejection?, Option.map_eq_none_iff, Status.ofCode]
  by_cases hsuccess : n = Status.successCode
  · simp [hsuccess, Status.cause?]
  · rw [if_neg hsuccess]
    split
    · simp [Status.cause?, hsuccess]
    · split <;> simp [Status.cause?, hsuccess]

/-! ### The commands of a trace -/

namespace Trace

theorem commands_append (before rest : Trace) :
    (before ++ rest).commands = before.commands ++ rest.commands := List.filterMap_append

@[simp] theorem commands_nil : commands [] = [] := rfl

@[simp] theorem commands_applied_cons (command : Text) (rest : Trace) :
    commands (.applied command :: rest) = command :: rest.commands := rfl

@[simp] theorem commands_logged_cons (record : Log.Record) (rest : Trace) :
    commands (.logged record :: rest) = rest.commands := rfl

@[simp] theorem commands_printed_cons (sink : Sink) (text : Text) (rest : Trace) :
    commands (.printed sink text :: rest) = rest.commands := rfl

@[simp] theorem commands_map_logged (records : List Log.Record) :
    commands (records.map Event.logged) = [] := by
  induction records with
  | nil => rfl
  | cons record records ih => rw [List.map_cons, commands_logged_cons, ih]

end Trace

/-- A judgement hands no command to the executor. -/
@[simp] theorem Dispatched.commands_events (command : Text) (judged : Dispatched) :
    (judged.events command).commands = [] := by
  cases judged with
  | rejected r => rw [events, Trace.commands_logged_cons]; split <;> rfl
  | _ => rfl

/-! ### What an outcome makes of a run -/

namespace Outcome

/-- Whether an outcome stops the run: any code but that of a success, and anything that goes wrong
otherwise than by a failure that the executor reports. -/
def stops : Outcome → Bool
  | .code n => n ≠ Status.successCode
  | .failed _ => false
  | .escaped _ => true

/-- Whether an outcome is a success. -/
def isSuccess (outcome : Outcome) : Bool := outcome = .code Status.successCode

/-- Whether an outcome is a failure that the executor reports. -/
def isFailure : Outcome → Bool
  | .failed _ => true
  | _ => false

theorem isSuccess_of_stops {outcome : Outcome} (h : outcome.stops = true) :
    outcome.isSuccess = false := by
  cases outcome with
  | code n => simpa [stops, isSuccess] using h
  | failed reason => rfl
  | escaped e => rfl

theorem isFailure_of_stops {outcome : Outcome} (h : outcome.stops = true) :
    outcome.isFailure = false := by
  cases outcome with
  | code n => rfl
  | failed reason => exact absurd h (by simp [stops])
  | escaped e => rfl

/-- Every outcome is a success, a reported failure, or one that stops the run. -/
theorem countP_add_countP_add_countP (outcomes : List Outcome) :
    outcomes.countP isSuccess + outcomes.countP isFailure + outcomes.countP stops =
      outcomes.length := by
  induction outcomes with
  | nil => rfl
  | cons outcome outcomes ih =>
    have hone : (if isSuccess outcome = true then 1 else 0) +
        (if isFailure outcome = true then 1 else 0) +
          (if stops outcome = true then 1 else 0) = 1 := by
      cases outcome with
      | code n => by_cases hn : n = Status.successCode <;> simp [isSuccess, isFailure, stops, hn]
      | failed reason => rfl
      | escaped e => rfl
    rw [List.countP_cons, List.countP_cons, List.countP_cons, List.length_cons, ← ih]
    omega

/-- What a run comes to that stops at a command with an outcome: the rejection that the code makes
of it, or what escapes. -/
def verdict (command : Text) : Outcome → Except Escape (Option Rejection)
  | .code n => .ok ((Status.ofCode n).rejection? command)
  | .failed _ => .ok none
  | .escaped e => .error e

/-- The verdict is an error when something has escaped, and only then. -/
theorem map_verdict_eq_error_iff {α : Type} {outcome : Outcome} {command : Text}
    {f : Option Rejection → α} {e : Escape} :
    (outcome.verdict command).map f = .error e ↔ outcome = .escaped e := by
  cases outcome <;> simp [verdict, Except.map]

theorem exists_map_verdict_eq_ok_iff {α : Type} {outcome : Outcome} {command : Text}
    {f : Option Rejection → α} :
    (∃ a, (outcome.verdict command).map f = .ok a) ↔ ∀ e, outcome ≠ .escaped e := by
  cases outcome <;> simp [verdict, Except.map]

theorem exists_verdict_of_map_eq_ok {α : Type} {outcome : Outcome} {command : Text}
    {f : Option Rejection → α} {a : α} (h : (outcome.verdict command).map f = .ok a) :
    ∃ error, outcome.verdict command = .ok error ∧ f error = a := by
  cases hverdict : outcome.verdict command with
  | error e =>
    rw [hverdict] at h
    cases h
  | ok error =>
    rw [hverdict] at h
    exact ⟨error, rfl, Except.ok.inj h⟩

/-- A run that stops by an outcome does so by a rejection, or by what escapes. -/
theorem verdict_ne_none_of_stops {outcome : Outcome} (h : outcome.stops = true) (command : Text) :
    outcome.verdict command ≠ .ok none := by
  intro hnone
  cases outcome with
  | code n =>
    obtain rfl := (Status.rejection?_ofCode_eq_none_iff n command).1 (Except.ok.inj hnone)
    cases h
  | failed reason => cases h
  | escaped e => cases hnone

end Outcome

namespace Session

/-! ### The turns -/

variable {x : Executor π σ} {nesting : Nesting π σ} {script : Script.Opened}

/-- The exit command ends the run. -/
theorem runFrom_of_exit (s : Session π) (commands warnings : ℕ) (state : σ)
    (h : script.reader.read.command = exitCommand) :
    runFrom x nesting s script commands warnings state =
      ⟨(.ok ⟨s.previous, commands, warnings, none⟩, script.next), state,
        script.reader.read.records.map Event.logged⟩ := by
  rw [runFrom, dif_pos h]

/-- A comment is shown or not, and the run goes on. -/
theorem runFrom_of_isComment (s : Session π) (commands warnings : ℕ) (state : σ)
    (h : script.reader.read.command ≠ exitCommand)
    (hcomment : isComment script.reader.read.command = true) :
    runFrom x nesting s script commands warnings state =
      (runFrom x nesting s script.next commands warnings state).after
        (script.reader.read.records.map Event.logged ++
          if x.verboseLevel state = s.echoLevel then
            [Event.printed .listing script.reader.read.command]
          else []) := by
  rw [runFrom, dif_neg h, if_neg (Reader.wellFormed_command_read _).ne_nil, if_pos hcomment]

/-- Any other command is dispatched, and the run goes on or ends by the judgement. -/
theorem runFrom_of_dispatch (s : Session π) (commands warnings : ℕ) (state : σ)
    (h : script.reader.read.command ≠ exitCommand)
    (hcomment : isComment script.reader.read.command = false) :
    runFrom x nesting s script commands warnings state =
      let noted := script.reader.read.records.map Event.logged
      let deed := x.dispatch nesting script.reader.read.command state
      let onward := script.next.upToDate (x.octets? deed.state script.file)
      match deed.value with
      | .accepted _ =>
        (runFrom x nesting s onward (commands + 1) warnings deed.state).after
          (noted ++ deed.trace)
      | .failed _ _ =>
        (runFrom x nesting s onward commands (warnings + 1) deed.state).after
          (noted ++ deed.trace ++ [.logged (s.record .warning problemMessage)])
      | .rejected rejection =>
        ⟨(.ok ⟨s.previous, commands, warnings, some rejection⟩, script.next), deed.state,
          noted ++ deed.trace ++
            [.logged (s.record .error (haltMessage script.reader.read.reader.line))]⟩
      | .escaped e => ⟨(.error e, script.next), deed.state, noted ++ deed.trace⟩ := by
  rw [runFrom, dif_neg h, if_neg (Reader.wellFormed_command_read _).ne_nil]
  exact if_neg (by simp [hcomment])

/-! ### Runs and pauses of a session -/

variable {s : Session π}

/-- A run of a session whose script is open: the run of its script, from no counts. -/
theorem run_of_opened (x : Executor π σ) (nesting : Nesting π σ) (state : σ)
    (hs : s.stream = .opened script) :
    s.run x nesting state =
      ⟨((runFrom x nesting s script 0 0 state).value.1,
        { s with stream := .opened (runFrom x nesting s script 0 0 state).value.2 }),
        (runFrom x nesting s script 0 0 state).state,
        (runFrom x nesting s script 0 0 state).trace⟩ := by
  rw [run, hs]

theorem exists_stream_of_isOpen (h : s.isOpen = true) : ∃ script, s.stream = .opened script := by
  cases hstream : s.stream with
  | opened script => exact ⟨script, rfl⟩
  | _ => simp [isOpen, hstream] at h

/-- A session whose script is not open has nothing to run. -/
theorem run_of_not_isOpen (x : Executor π σ) (nesting : Nesting π σ) (state : σ)
    (hs : s.isOpen = false) :
    s.run x nesting state = ⟨(.ok ⟨s.previous, 0, 0, none⟩, s), state, []⟩ := by
  rw [run]
  cases hstream : s.stream with
  | opened script => simp [isOpen, hstream] at hs
  | _ => rfl

/-- A pause logs its start and, unless something escapes, its end around the run. -/
theorem pause_eq (x : Executor π σ) (nesting : Nesting π σ) (prompt : Text) (s : Session π)
    (state : σ) :
    s.pause x nesting prompt state =
      Traced.after
        { s.run x nesting state with
          trace := (s.run x nesting state).trace ++
            match (s.run x nesting state).value.1 with
            | .ok _ => [.logged (s.record .info (pauseEnd prompt))]
            | .error _ => [] }
        [.logged (s.record .info (pauseStart prompt))] := rfl

theorem commands_pauseEnd (s : Session π) (prompt : Text) (result : Except Escape (Summary π)) :
    Trace.commands (match result with
      | .ok _ => [.logged (s.record .info (pauseEnd prompt))]
      | .error _ => []) = [] := by
  cases result <;> rfl

/-- A pause comes to the same as a run. -/
theorem value_runOrPause (x : Executor π σ) (nesting : Nesting π σ) (prompt : Option Text)
    (s : Session π) (state : σ) :
    (s.runOrPause x nesting prompt state).value = (s.run x nesting state).value := by
  cases prompt <;> rfl

/-- A pause hands over what the run does: the records before and behind it are no commands. -/
theorem commands_trace_pause (x : Executor π σ) (nesting : Nesting π σ) (prompt : Text)
    (s : Session π) (state : σ) :
    (s.pause x nesting prompt state).trace.commands = (s.run x nesting state).trace.commands := by
  rw [pause_eq, Traced.after, Trace.commands_append, Trace.commands_append, commands_pauseEnd,
    List.append_nil]
  rfl

theorem commands_trace_runOrPause (x : Executor π σ) (nesting : Nesting π σ)
    (prompt : Option Text) (s : Session π) (state : σ) :
    (s.runOrPause x nesting prompt state).trace.commands =
      (s.run x nesting state).trace.commands := by
  cases prompt with
  | none => rfl
  | some name => exact commands_trace_pause x nesting name s state

end Session

end CommandScript
