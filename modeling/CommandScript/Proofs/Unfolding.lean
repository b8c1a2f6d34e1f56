import CommandScript.Proofs.Turns

/-!
# How a run unfolds

`Unfolds` says what a run does as a whole, with one constructor for each way in which a turn can end
the run or let it go on, and with everything that is done on the way: what the reader notes, what
is shown, the command that is handed over, what its reply does, and what the session logs and
prints when it has judged the outcome (`turnTrace`). Every run of a script unfolds
(`unfolds_runFrom`), so that whatever holds of runs can be proved by induction on how they unfold,
without a word about the measure by which they end.
-/
namespace CommandScript.Session

variable {π σ : Type}

/-! ### A turn with a command for the executor -/

/-- What a session logs and prints when it has judged the outcome of a command. -/
def aftermath (s : Session π) (line : ℕ) (command : Text) (outcome : Outcome) : Trace :=
  (Dispatched.ofOutcome command outcome).events command ++
    match Dispatched.ofOutcome command outcome with
    | .failed _ _ => [.logged (s.record .warning problemMessage)]
    | .rejected _ => [.logged (s.record .error (haltMessage line))]
    | _ => []

/-- What is done in a **turn** with a command for the executor, given the reply to it. -/
def turnTrace (s : Session π) (script : Script.Opened) (reply : Traced σ Outcome) : Trace :=
  script.reader.read.records.map Event.logged ++
    .applied script.reader.read.command :: reply.trace ++
      s.aftermath script.next.reader.line script.reader.read.command reply.value

/-- What is noted and shown about a comment hands no command over. -/
theorem commands_noted_append_shown (records : List Log.Record) (isShown : Prop)
    [Decidable isShown] (text : Text) :
    Trace.commands (records.map Event.logged ++
      if isShown then [Event.printed .listing text] else []) = [] := by
  rw [Trace.commands_append, Trace.commands_map_logged]
  split <;> rfl

/-- What a session logs and prints about an outcome hands no command over. -/
@[simp] theorem commands_aftermath (s : Session π) (line : ℕ) (command : Text) (outcome : Outcome) :
    (s.aftermath line command outcome).commands = [] := by
  rw [aftermath, Trace.commands_append, Dispatched.commands_events, List.nil_append]
  cases Dispatched.ofOutcome command outcome <;> rfl

theorem commands_turnTrace (s : Session π) (script : Script.Opened) (reply : Traced σ Outcome) :
    (s.turnTrace script reply).commands =
      script.reader.read.command :: reply.trace.commands := by
  rw [turnTrace, Trace.commands_append, Trace.commands_append, Trace.commands_map_logged,
    Trace.commands_applied_cons, commands_aftermath, List.append_nil, List.nil_append]

variable {x : Executor π σ} {nesting : Nesting π σ} {s : Session π} {script : Script.Opened}
  {commands warnings : ℕ} {state : σ}

/-- A command for the executor settles by its outcome how the run ends or goes on. -/
theorem runFrom_of_outcome {reply : Traced σ Outcome}
    (h : script.reader.read.command ≠ exitCommand)
    (hcomment : isComment script.reader.read.command = false)
    (hreply : (x.apply state script.reader.read.command).complete nesting = reply) :
    runFrom x nesting s script commands warnings state =
      if reply.value.stops then
        ⟨((reply.value.verdict script.reader.read.command).map fun error ↦
          ⟨s.previous, commands, warnings, error⟩, script.next), reply.state,
          s.turnTrace script reply⟩
      else
        (runFrom x nesting s (script.next.upToDate (x.octets? reply.state script.file))
          (commands + if reply.value.isSuccess then 1 else 0)
          (warnings + if reply.value.isFailure then 1 else 0) reply.state).after
            (s.turnTrace script reply) := by
  rw [runFrom_of_dispatch s commands warnings state h hcomment]
  simp only [Executor.dispatch, hreply, turnTrace, aftermath]
  cases houtcome : reply.value with
  | failed reason =>
    simp [Dispatched.ofOutcome, Outcome.stops, Outcome.isSuccess, Outcome.isFailure]
  | escaped e => simp [Dispatched.ofOutcome, Outcome.stops, Outcome.verdict, Except.map]
  | code code =>
    cases hrejection : (Status.ofCode code).rejection? script.reader.read.command with
    | none =>
      obtain rfl := (Status.rejection?_ofCode_eq_none_iff code _).1 hrejection
      simp [Dispatched.ofOutcome, hrejection, Outcome.stops, Outcome.isSuccess, Outcome.isFailure]
    | some rejection =>
      have hcode := mt (Status.rejection?_ofCode_eq_none_iff code _).2
        (hrejection.trans_ne (Option.some_ne_none _))
      simp [Dispatched.ofOutcome, hrejection, Outcome.stops, Outcome.verdict, hcode, Except.map]
      rfl

/-! ### All turns -/

/-- How a run **unfolds** from a place in a script, from what has been counted before, and from a
state of the executor: what it comes to, the script and the state after it, and all that is done. -/
inductive Unfolds (x : Executor π σ) (nesting : Nesting π σ) (s : Session π) :
    Script.Opened → ℕ → ℕ → σ → Traced σ (Except Escape (Summary π) × Script.Opened) → Prop
  /-- The script gives the exit command. -/
  | exit {commands warnings : ℕ} {script : Script.Opened} {state : σ}
      (h : script.reader.read.command = exitCommand) :
      Unfolds x nesting s script commands warnings state
        ⟨(.ok ⟨s.previous, commands, warnings, none⟩, script.next), state,
          script.reader.read.records.map Event.logged⟩
  /-- The script gives a comment, which is shown while the levels are the same. -/
  | comment {commands warnings : ℕ} {script : Script.Opened} {state : σ}
      {ran : Traced σ (Except Escape (Summary π) × Script.Opened)}
      (h : script.reader.read.command ≠ exitCommand)
      (hcomment : isComment script.reader.read.command = true)
      (hrest : Unfolds x nesting s script.next commands warnings state ran) :
      Unfolds x nesting s script commands warnings state
        (ran.after (script.reader.read.records.map Event.logged ++
          if x.verboseLevel state = s.echoLevel then
            [Event.printed .listing script.reader.read.command]
          else []))
  /-- The outcome of a command stops the run, which comes to its verdict. -/
  | stops {commands warnings : ℕ} {script : Script.Opened} {state : σ} {reply : Traced σ Outcome}
      (h : script.reader.read.command ≠ exitCommand)
      (hcomment : isComment script.reader.read.command = false)
      (hreply : (x.apply state script.reader.read.command).complete nesting = reply)
      (hstops : reply.value.stops = true) :
      Unfolds x nesting s script commands warnings state
        ⟨((reply.value.verdict script.reader.read.command).map fun error ↦
          ⟨s.previous, commands, warnings, error⟩, script.next), reply.state,
          s.turnTrace script reply⟩
  /-- The outcome of a command is counted, and the run goes on with the script as it is by now. -/
  | goesOn {commands warnings : ℕ} {script : Script.Opened} {state : σ} {reply : Traced σ Outcome}
      {ran : Traced σ (Except Escape (Summary π) × Script.Opened)}
      (h : script.reader.read.command ≠ exitCommand)
      (hcomment : isComment script.reader.read.command = false)
      (hreply : (x.apply state script.reader.read.command).complete nesting = reply)
      (hstops : reply.value.stops = false)
      (hrest : Unfolds x nesting s (script.next.upToDate (x.octets? reply.state script.file))
        (commands + if reply.value.isSuccess then 1 else 0)
        (warnings + if reply.value.isFailure then 1 else 0) reply.state ran) :
      Unfolds x nesting s script commands warnings state (ran.after (s.turnTrace script reply))

/-- **A run unfolds.** By induction on the lines that can still come: every turn takes the script
over some of them, and a change of the script brings no more. -/
theorem unfolds_runFrom (x : Executor π σ) (nesting : Nesting π σ) (s : Session π)
    (script : Script.Opened) (commands warnings : ℕ) (state : σ) :
    Unfolds x nesting s script commands warnings state
      (runFrom x nesting s script commands warnings state) := by
  induction hahead : script.linesAhead using Nat.strong_induction_on
    generalizing script commands warnings state with
  | _ ahead ih =>
  by_cases hexit : script.reader.read.command = exitCommand
  · rw [runFrom_of_exit s commands warnings state hexit]
    exact .exit hexit
  have hlt : script.next.linesAhead < ahead := hahead ▸ script.linesAhead_next_lt hexit
  cases hcomment : isComment script.reader.read.command with
  | true =>
    rw [runFrom_of_isComment s commands warnings state hexit hcomment]
    exact .comment hexit hcomment (ih _ hlt script.next commands warnings state rfl)
  | false =>
    obtain ⟨reply, hreply⟩ : ∃ reply,
      (x.apply state script.reader.read.command).complete nesting = reply := ⟨_, rfl⟩
    rw [runFrom_of_outcome hexit hcomment hreply]
    cases hstops : reply.value.stops with
    | true => exact .stops hexit hcomment hreply hstops
    | false =>
      have hle := script.next.linesAhead_upToDate_le (x.octets? reply.state script.file)
      exact .goesOn hexit hcomment hreply hstops (ih _ (hle.trans_lt hlt) _ _ _ _ rfl)

end CommandScript.Session
