import CommandScript.Proofs.Course

/-!
# The account of a run

A command may change the script that it is read from. Then no reader gives the commands of the run
in advance, and there is no course of it. What holds of every run all the same is its **account**:
the commands that it has handed over, in their order, settle by their outcomes alone when it goes
on, what it counts, and what it comes to.

`Goes` has one constructor for each way in which a turn can end or go on, and nothing in it but the
commands for the executor. `exists_account` is the run as such, by induction on how it unfolds.
-/
namespace CommandScript.Session

variable {π σ : Type}

/-- How a run **goes** that hands over commands, from a state and from what it has counted before:
its result and the script after it. -/
inductive Goes (x : Executor π σ) (nesting : Nesting π σ) (s : Session π) :
    ℕ → ℕ → σ → List Text → Except Escape (Summary π) × Script.Opened → Prop
  /-- The script gives the exit command. -/
  | exit {commands warnings : ℕ} {state : σ} {script : Script.Opened}
      (h : script.reader.read.command = exitCommand) :
      Goes x nesting s commands warnings state []
        (.ok ⟨s.previous, commands, warnings, none⟩, script.next)
  /-- The outcome of a command stops the run, which comes to its verdict. -/
  | stops {commands warnings : ℕ} {state : σ} {command : Text} {script : Script.Opened}
      (h : ((x.apply state command).complete nesting).value.stops = true) :
      Goes x nesting s commands warnings state [command]
        ((((x.apply state command).complete nesting).value.verdict command).map fun error ↦
          ⟨s.previous, commands, warnings, error⟩, script)
  /-- The outcome of a command is counted, as a success or as a failure without a code, and the run
  goes on. -/
  | goesOn {commands warnings : ℕ} {state : σ} {command : Text}
      {rest : List Text} {result : Except Escape (Summary π) × Script.Opened}
      (h : ((x.apply state command).complete nesting).value.stops = false)
      (hrest : Goes x nesting s
        (commands + if ((x.apply state command).complete nesting).value.isSuccess then 1 else 0)
        (warnings + if ((x.apply state command).complete nesting).value.isFailure then 1 else 0)
        ((x.apply state command).complete nesting).state rest result) :
      Goes x nesting s commands warnings state (command :: rest) result

/-- The **account** of a run: the commands that it has handed over. -/
structure Account (x : Executor π σ) (nesting : Nesting π σ) (s : Session π)
    (commands warnings : ℕ) (state : σ)
    (ran : Traced σ (Except Escape (Summary π) × Script.Opened)) (handed : List Text) : Prop where
  /-- The run goes by the outcomes of the commands. -/
  goes : Goes x nesting s commands warnings state handed ran.value
  /-- The executor is left as after the commands. -/
  left : ran.state = (x.applyAll nesting state handed).state
  /-- The executor has been handed the commands, and what their replies run. -/
  told : ran.trace.commands = (x.applyAll nesting state handed).trace.commands

variable {x : Executor π σ} {nesting : Nesting π σ} {s : Session π} {script : Script.Opened}
  {commands warnings : ℕ} {state : σ}

/-! ### One turn -/

/-- What is done before a run without a command for the executor leaves its account as it is. -/
theorem Account.after {before : Trace} {handed : List Text}
    {ran : Traced σ (Except Escape (Summary π) × Script.Opened)}
    (h : Account x nesting s commands warnings state ran handed)
    (hbefore : before.commands = []) :
    Account x nesting s commands warnings state (ran.after before) handed :=
  ⟨h.goes, h.left, by rw [Traced.after, Trace.commands_append, hbefore, h.told, List.nil_append]⟩

/-- One command before a run that goes on. -/
theorem Account.cons {handed : List Text} {reply : Traced σ Outcome}
    {ran : Traced σ (Except Escape (Summary π) × Script.Opened)}
    (h : Account x nesting s
      (commands + if reply.value.isSuccess then 1 else 0)
      (warnings + if reply.value.isFailure then 1 else 0) reply.state ran handed)
    (hreply : (x.apply state script.reader.read.command).complete nesting = reply)
    (hstops : reply.value.stops = false) :
    Account x nesting s commands warnings state (ran.after (s.turnTrace script reply))
      (script.reader.read.command :: handed) := by
  subst hreply
  refine ⟨.goesOn hstops h.goes, h.left, ?_⟩
  rw [Traced.after, Trace.commands_append, commands_turnTrace, h.told, Executor.applyAll,
    Trace.commands_append, Trace.commands_applied_cons]

/-- One command that the run ends with. -/
theorem account_of_stops {reply : Traced σ Outcome}
    (hreply : (x.apply state script.reader.read.command).complete nesting = reply)
    (hstops : reply.value.stops = true) :
    Account x nesting s commands warnings state
      ⟨((reply.value.verdict script.reader.read.command).map fun error ↦
        ⟨s.previous, commands, warnings, error⟩, script.next), reply.state,
        s.turnTrace script reply⟩ [script.reader.read.command] := by
  subst hreply
  refine ⟨.stops hstops, rfl, ?_⟩
  rw [commands_turnTrace, Executor.applyAll, Trace.commands_append, Trace.commands_applied_cons]
  exact (List.append_nil _).symm

/-! ### The run -/

/-- **Every run has an account.** By induction on how the run unfolds: a command for the executor is
one more in the account, wherever the script that it was read from goes on. -/
theorem Unfolds.exists_account {ran : Traced σ (Except Escape (Summary π) × Script.Opened)}
    (h : Unfolds x nesting s script commands warnings state ran) :
    ∃ handed, Account x nesting s commands warnings state ran handed := by
  induction h with
  | exit h => exact ⟨[], .exit h, rfl, Trace.commands_map_logged _⟩
  | comment _ _ _ ih =>
    obtain ⟨handed, h⟩ := ih
    exact ⟨handed, h.after (commands_noted_append_shown _ _ _)⟩
  | stops _ _ hreply hstops => exact ⟨_, account_of_stops hreply hstops⟩
  | goesOn _ _ hreply hstops _ ih =>
    obtain ⟨handed, h⟩ := ih
    exact ⟨_, h.cons hreply hstops⟩

/-- A run of a session whose script is open goes by the outcomes of the commands that it hands
over. -/
theorem exists_goes_run (x : Executor π σ) (nesting : Nesting π σ) (state : σ)
    (hs : s.stream = .opened script) :
    ∃ handed last, Goes x nesting s 0 0 state handed
        ((s.run x nesting state).value.1, last) ∧
      (s.run x nesting state).value.2 = { s with stream := .opened last } ∧
      (s.run x nesting state).state = (x.applyAll nesting state handed).state ∧
      (s.run x nesting state).trace.commands =
        (x.applyAll nesting state handed).trace.commands := by
  obtain ⟨handed, h⟩ := (unfolds_runFrom x nesting s script 0 0 state).exists_account
  rw [run_of_opened x nesting state hs]
  exact ⟨handed, _, h.goes, rfl, h.left, h.told⟩

/-! ### What an account says -/

variable {handed : List Text} {result : Except Escape (Summary π) × Script.Opened}

/-- The summary counts the successes and the reported failures. -/
theorem Goes.counts (h : Goes x nesting s commands warnings state handed result)
    {summary : Summary π} (hsummary : result.1 = .ok summary) :
    summary.previous = s.previous ∧
      summary.commands = commands +
        (x.applyAll nesting state handed).value.countP Outcome.isSuccess ∧
      summary.warnings = warnings +
        (x.applyAll nesting state handed).value.countP Outcome.isFailure := by
  induction h with
  | exit =>
    cases hsummary
    exact ⟨rfl, rfl, rfl⟩
  | stops hstops =>
    obtain ⟨error, -, rfl⟩ := Outcome.exists_verdict_of_map_eq_ok hsummary
    simp [Executor.applyAll, Outcome.isSuccess_of_stops hstops, Outcome.isFailure_of_stops hstops]
  | goesOn _ _ ih =>
    obtain ⟨hprevious, hcommands, hwarnings⟩ := ih hsummary
    refine ⟨hprevious, ?_, ?_⟩
    · rw [hcommands, Executor.applyAll, List.countP_cons]
      omega
    · rw [hwarnings, Executor.applyAll, List.countP_cons]
      omega

/-- A run without an error has come to the exit command. -/
theorem Goes.exists_exit (h : Goes x nesting s commands warnings state handed result)
    {summary : Summary π} (hsummary : result.1 = .ok summary) (herror : summary.error = none) :
    ∃ last : Script.Opened, last.reader.read.command = exitCommand ∧ result.2 = last.next := by
  induction h with
  | @exit _ _ _ script h => exact ⟨script, h, rfl⟩
  | stops hstops =>
    obtain ⟨error, hverdict, rfl⟩ := Outcome.exists_verdict_of_map_eq_ok hsummary
    obtain rfl : error = none := herror
    exact absurd hverdict (Outcome.verdict_ne_none_of_stops hstops _)
  | goesOn _ _ ih => exact ih hsummary

/-- A run with an error has been stopped by the code of the last command that it has handed over, of
which the error is the rejection, and by none before. -/
theorem Goes.of_rejection (h : Goes x nesting s commands warnings state handed result)
    {summary : Summary π} {rejection : Rejection} (hsummary : result.1 = .ok summary)
    (herror : summary.error = some rejection) :
    ∃ before command code, handed = before ++ [command] ∧
      (∀ outcome ∈ (x.applyAll nesting state before).value, outcome.stops = false) ∧
      ((x.apply (x.applyAll nesting state before).state command).complete nesting).value =
        .code code ∧
      (Status.ofCode code).rejection? command = some rejection := by
  induction h with
  | exit =>
    cases hsummary
    cases herror
  | @stops _ _ state command _ _ =>
    refine ⟨[], command, ?_⟩
    simp only [Executor.applyAll]
    cases houtcome : ((x.apply state command).complete nesting).value with
    | code code =>
      rw [houtcome] at hsummary
      cases hsummary
      exact ⟨code, rfl, by simp, rfl, herror⟩
    | failed reason =>
      rw [houtcome] at hsummary
      cases hsummary
      cases herror
    | escaped e =>
      rw [houtcome] at hsummary
      cases hsummary
  | @goesOn _ _ state command _ _ hstops _ ih =>
    obtain ⟨before, last, code, rfl, hbefore, hcode, hrejection⟩ := ih hsummary
    refine ⟨command :: before, last, code, rfl, fun outcome houtcome ↦ ?_, hcode, hrejection⟩
    rcases List.mem_cons.1 houtcome with rfl | houtcome
    · exact hstops
    · exact hbefore outcome houtcome

/-- A run with a summary has been stopped by one outcome if it bears an error, and by none if it
does not. -/
theorem Goes.countP_stops (h : Goes x nesting s commands warnings state handed result)
    {summary : Summary π} (hsummary : result.1 = .ok summary) :
    (x.applyAll nesting state handed).value.countP Outcome.stops =
      if summary.error = none then 0 else 1 := by
  induction h with
  | exit =>
    cases hsummary
    rfl
  | stops hstops =>
    obtain ⟨error, hverdict, rfl⟩ := Outcome.exists_verdict_of_map_eq_ok hsummary
    have herror : error ≠ none := by
      rintro rfl
      exact Outcome.verdict_ne_none_of_stops hstops _ hverdict
    rw [if_neg herror, Executor.applyAll, List.countP_cons, if_pos hstops]
    rfl
  | goesOn hstops _ ih =>
    rw [Executor.applyAll, List.countP_cons, hstops, ih hsummary, if_neg Bool.false_ne_true,
      Nat.add_zero]

end CommandScript.Session
