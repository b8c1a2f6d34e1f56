import CommandScript.Dispatch
import CommandScript.Session

/-!
# Running a session

A run reads command after command and dispatches each, until the script says to exit, a command is
rejected, or something escapes. Comments are printed while the executor's verbose level is the
session's echo level. A failure without a code is counted as a warning, and the run goes on.
However the run ends, the session stands right after the last command read. A command may change
the script itself, so the script is brought up to date after each of them.
-/
namespace CommandScript.Session

variable {π σ : Type}

/-- The message of a failure that does not stop the session. -/
def problemMessage : Text :=
  "A problem occurred with the previous command. Keep reading the macro.".toList

/-- The message of a rejection that stops the session. -/
def haltMessage (line : Nat) : Text := "macro halted at line ".toList ++ (toString line).toList

/-- The message at the start of a pause. -/
def pauseStart (prompt : Text) : Text :=
  "Pause session <".toList ++ prompt ++ "> start.".toList

/-- The message at the end of a pause. -/
def pauseEnd (prompt : Text) : Text :=
  "Pause session <".toList ++ prompt ++ "> Terminate.".toList

/-- Whether a command is a comment. -/
def isComment (command : Text) : Bool := command.head? == some '#'

/-- Runs an opened script of a session on, with the numbers of commands and warnings counted so far.
The value is what the run comes to and the script after it. -/
def runFrom (x : Executor π σ) (nesting : Nesting π σ) (s : Session π) (script : Script.Opened)
    (commands warnings : Nat) (state : σ) :
    Traced σ (Except Escape (Summary π) × Script.Opened) :=
  let reading := script.reader.read
  let noted := reading.records.map Event.logged
  if h : reading.command = exitCommand then
    ⟨(.ok ⟨s.previous, commands, warnings, none⟩, script.next), state, noted⟩
  else
    have := script.linesAhead_next_lt h
    if reading.command = [] then
      (runFrom x nesting s script.next commands warnings state).after noted
    else if isComment reading.command then
      let shown :=
        if x.verboseLevel state = s.echoLevel then [Event.printed .listing reading.command] else []
      (runFrom x nesting s script.next commands warnings state).after (noted ++ shown)
    else
      let deed := x.dispatch nesting reading.command state
      let onward := script.next.upToDate (x.octets? deed.state script.file)
      match deed.value with
      | .accepted _ =>
        (runFrom x nesting s onward (commands + 1) warnings deed.state).after (noted ++ deed.trace)
      | .failed _ _ =>
        (runFrom x nesting s onward commands (warnings + 1) deed.state).after
          (noted ++ deed.trace ++ [.logged (s.record .warning problemMessage)])
      | .rejected rejection =>
        ⟨(.ok ⟨s.previous, commands, warnings, some rejection⟩, script.next), deed.state,
          noted ++ deed.trace ++
            [.logged (s.record .error (haltMessage reading.reader.line))]⟩
      | .escaped e => ⟨(.error e, script.next), deed.state, noted ++ deed.trace⟩
termination_by script.linesAhead
decreasing_by
  · assumption
  · assumption
  all_goals
    exact Nat.lt_of_le_of_lt (Script.Opened.linesAhead_upToDate_le _ _)
      ‹script.next.linesAhead < script.linesAhead›

/-- Runs a session. A session whose script is not open does nothing. -/
def run (x : Executor π σ) (nesting : Nesting π σ) (s : Session π) (state : σ) :
    Traced σ (Except Escape (Summary π) × Session π) :=
  match s.stream with
  | .opened script =>
    let ran := runFrom x nesting s script 0 0 state
    ⟨(ran.value.1, { s with stream := .opened ran.value.2 }), ran.state, ran.trace⟩
  | _ => ⟨(.ok ⟨s.previous, 0, 0, none⟩, s), state, []⟩

/-- Runs a session as a pause with a name. The end of the pause is not logged when something
escapes from the run. -/
def pause (x : Executor π σ) (nesting : Nesting π σ) (prompt : Text) (s : Session π) (state : σ) :
    Traced σ (Except Escape (Summary π) × Session π) :=
  let ran := s.run x nesting state
  let closing := match ran.value.1 with
    | .ok _ => [Event.logged (s.record .info (pauseEnd prompt))]
    | .error _ => []
  ⟨ran.value, ran.state, .logged (s.record .info (pauseStart prompt)) :: ran.trace ++ closing⟩

/-- Runs a session, as a pause when a name is given. -/
def runOrPause (x : Executor π σ) (nesting : Nesting π σ) (prompt : Option Text) (s : Session π)
    (state : σ) : Traced σ (Except Escape (Summary π) × Session π) :=
  match prompt with
  | none => s.run x nesting state
  | some name => s.pause x nesting name state

/-- Runs the scripts that an executor asks for, up to a depth. -/
def nesting (x : Executor π σ) (files : FileStore) : Nat → Nesting π σ
  | 0 => fun _ state ↦ ⟨.error .tooDeep, state, []⟩
  | depth + 1 => fun request state ↦
    match openScript files request.path request.previous request.echoLevel request.strict with
    | .error e => ⟨.error e, state, []⟩
    | .ok (s, records) =>
      let ran := s.runOrPause x (nesting x files depth) request.prompt state
      ⟨ran.value.1, ran.state, records.map Event.logged ++ ran.trace⟩

end CommandScript.Session
