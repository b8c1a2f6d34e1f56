import CommandScript.Proofs.Account
import CommandScript.Proofs.Consumption
import CommandScript.Proofs.SettledRuns

/-!
# The reports of a session

Only sessions sign what they log: the records of the reader and of the dispatcher, and those of an
executor, bear no path. The signed records of a trace are therefore the **reports** of the sessions
that were run in it. Over an executor that does nothing within its replies there is one session
only, and its reports follow from its summary (`signed_runOrPause`): a warning for each failure
that it has counted, the line at which it halted if it came to a rejection, and around them the
start and the end of a pause.

With its counts (`Counts`), this is all that a summary tells about a run.
-/
namespace CommandScript

variable {π σ : Type}

/-! ### Signed records -/

/-- The **signed** records of a trace: those that bear the path of a script. -/
def Trace.signed (trace : Trace) : List Log.Record := trace.records.filter (·.script.isSome)

namespace Trace

theorem signed_append (before rest : Trace) :
    (before ++ rest).signed = before.signed ++ rest.signed := by
  rw [signed, records, List.filterMap_append, List.filter_append]
  rfl

@[simp] theorem signed_nil : signed [] = [] := rfl

@[simp] theorem signed_applied_cons (command : Text) (rest : Trace) :
    signed (.applied command :: rest) = rest.signed := rfl

@[simp] theorem signed_printed_cons (sink : Sink) (text : Text) (rest : Trace) :
    signed (.printed sink text :: rest) = rest.signed := rfl

theorem signed_logged_cons (record : Log.Record) (rest : Trace) :
    signed (.logged record :: rest) =
      if record.script.isSome then record :: rest.signed else rest.signed :=
  List.filter_cons

theorem signed_map_logged (records : List Log.Record) :
    signed (records.map Event.logged) = records.filter (·.script.isSome) := by
  induction records with
  | nil => rfl
  | cons record records ih => rw [List.map_cons, signed_logged_cons, ih, List.filter_cons]

/-- The same events in another order have the same signed records in another order. -/
theorem signed_perm {before after : Trace} (h : before.Perm after) :
    before.signed.Perm after.signed :=
  (h.filterMap _).filter _

theorem signed_flatMap {ι : Type} (l : List ι) (f : ι → Trace) :
    signed (l.flatMap f) = l.flatMap fun i ↦ (f i).signed := by
  induction l with
  | nil => rfl
  | cons i l ih => rw [List.flatMap_cons, signed_append, ih, List.flatMap_cons]

end Trace

/-- The reader signs nothing. -/
theorem Reader.script_of_mem_records_readOn {line : ℕ} {collected lines : List Text}
    {record : Log.Record} (h : record ∈ (readOn line collected lines).records) :
    record.script = none := by
  induction lines generalizing line collected with
  | nil => simp [readOn] at h
  | cons raw rest ih =>
    rw [readOn] at h
    split at h
    · simp only at h
      split at h
      · simp at h
      · rw [List.mem_singleton.1 h]
        rfl
    · rename_i tokens ending _
      split at h
      · simp at h
      · rcases List.mem_append.1 h with hline | hrest
        · cases ending with
          | continuedEarly =>
            rw [List.mem_singleton.1 hline]
            rfl
          | complete | continued => simp [endingRecords] at hline
        · exact ih hrest

theorem Reader.signed_records_read (r : Reader) :
    Trace.signed (r.read.records.map Event.logged) = [] := by
  rw [Trace.signed_map_logged, List.filter_eq_nil_iff]
  intro record hrecord
  simp [script_of_mem_records_readOn hrecord]

/-- The dispatcher signs nothing. -/
@[simp] theorem Dispatched.signed_events (command : Text) (judged : Dispatched) :
    (judged.events command).signed = [] := by
  cases judged with
  | rejected r =>
    have halert : Trace.signed (if r.cause = .illegalParameter then
        [.printed .alert (refusedParameter r)] else []) = [] := by split <;> rfl
    exact halert
  | _ => rfl

/-- An executor is **quiet** when it does nothing within its replies. -/
def Executor.Quiet (x : Executor π σ) (nesting : Nesting π σ) : Prop :=
  ∀ state command, ((x.apply state command).complete nesting).trace = []

theorem Executor.quiet_settled (x : Executor π σ) (nesting nesting' : Nesting π σ) :
    (x.settled nesting).Quiet nesting' := fun _ _ ↦ rfl

namespace Session

variable {x : Executor π σ} {nesting : Nesting π σ} {s : Session π} {script : Script.Opened}
  {commands warnings : ℕ} {state : σ}

/-! ### The reports of a run -/

/-- The **reports** of a run: a warning for each failure that has been counted, and the line at
which the session halted, if it came to a rejection. -/
def runReports (s : Session π) (warnings : ℕ) (error : Option Rejection) (line : ℕ) :
    List Log.Record :=
  List.replicate warnings ⟨.warning,
    "A problem occurred with the previous command. Keep reading the macro.".toList,
    some s.path.text⟩ ++
  error.toList.map fun _ ↦
    ⟨.error, "macro halted at line ".toList ++ (toString line).toList, some s.path.text⟩

/-- An outcome that lets the run go on is reported if it is a failure. -/
theorem signed_aftermath_of_not_stops {outcome : Outcome} (line : ℕ) (command : Text)
    (h : outcome.stops = false) :
    (s.aftermath line command outcome).signed =
      runReports s (if outcome.isFailure then 1 else 0) none line := by
  rw [aftermath, Trace.signed_append, Dispatched.signed_events, List.nil_append]
  cases outcome with
  | code code =>
    have hcode : code = Status.successCode := by simpa [Outcome.stops] using h
    rw [Dispatched.ofOutcome, (Status.rejection?_ofCode_eq_none_iff code command).2 hcode]
    rfl
  | failed reason => rfl
  | escaped e => cases h

/-- An outcome that stops the run is reported if it is a rejection. -/
theorem signed_aftermath_of_stops {outcome : Outcome} {error : Option Rejection} (line : ℕ)
    (command : Text) (h : outcome.stops = true) (hverdict : outcome.verdict command = .ok error) :
    (s.aftermath line command outcome).signed = runReports s 0 error line := by
  rw [aftermath, Trace.signed_append, Dispatched.signed_events, List.nil_append]
  cases outcome with
  | code code =>
    obtain rfl : (Status.ofCode code).rejection? command = error := Except.ok.inj hverdict
    rw [Dispatched.ofOutcome]
    cases (Status.ofCode code).rejection? command <;> rfl
  | failed reason => cases h
  | escaped e => cases hverdict

theorem signed_turnTrace {reply : Traced σ Outcome} (hreply : reply.trace = []) :
    (s.turnTrace script reply).signed =
      (s.aftermath script.next.reader.line script.reader.read.command reply.value).signed := by
  rw [turnTrace, hreply, Trace.signed_append, Trace.signed_append, Reader.signed_records_read,
    Trace.signed_applied_cons, Trace.signed_nil, List.nil_append, List.nil_append]

theorem runReports_add (s : Session π) (n m : ℕ) (error : Option Rejection) (line line' : ℕ) :
    runReports s (n + m) error line = runReports s n none line' ++ runReports s m error line := by
  simp only [runReports, List.replicate_add, Option.toList_none, List.map_nil, List.append_nil,
    List.append_assoc]

/-- The signed records of a run over a quiet executor. By induction on how the run unfolds: each
turn reports what it counts. -/
theorem Unfolds.exists_signed {ran : Traced σ (Except Escape (Summary π) × Script.Opened)}
    (h : Unfolds x nesting s script commands warnings state ran)
    (hquiet : x.Quiet nesting) {summary : Summary π} (hsummary : ran.value.1 = .ok summary) :
    ∃ counted, summary.warnings = warnings + counted ∧
      ran.trace.signed = runReports s counted summary.error ran.value.2.reader.line := by
  induction h with
  | exit =>
    cases hsummary
    exact ⟨0, rfl, Reader.signed_records_read _⟩
  | comment _ _ _ ih =>
    obtain ⟨counted, hcounted, hsigned⟩ := ih hsummary
    refine ⟨counted, hcounted, ?_⟩
    rw [Traced.after, Trace.signed_append, Trace.signed_append, Reader.signed_records_read, hsigned]
    split <;> rfl
  | stops _ _ hreply hstops =>
    subst hreply
    obtain ⟨error, hverdict, rfl⟩ := Outcome.exists_verdict_of_map_eq_ok hsummary
    refine ⟨0, rfl, ?_⟩
    rw [signed_turnTrace (hquiet _ _)]
    exact signed_aftermath_of_stops _ _ hstops hverdict
  | goesOn _ _ hreply hstops _ ih =>
    subst hreply
    obtain ⟨counted, hcounted, hsigned⟩ := ih hsummary
    refine ⟨_, hcounted.trans (Nat.add_assoc _ _ _), ?_⟩
    rw [Traced.after, Trace.signed_append, signed_turnTrace (hquiet _ _), hsigned,
      signed_aftermath_of_not_stops _ _ hstops]
    exact (runReports_add s _ _ _ _ _).symm

/-- A run of a session over a quiet executor: its signed records are its reports. -/
theorem signed_run (hquiet : x.Quiet nesting) (s : Session π) (state : σ) {summary : Summary π}
    (hsummary : (s.run x nesting state).value.1 = .ok summary) :
    (s.run x nesting state).trace.signed =
      runReports s summary.warnings summary.error
        ((s.run x nesting state).value.2.line?.getD 0) := by
  cases hstream : s.stream with
  | opened script =>
    rw [run_of_opened x nesting state hstream] at hsummary ⊢
    obtain ⟨counted, hcounted, hsigned⟩ :=
      (unfolds_runFrom x nesting s script 0 0 state).exists_signed hquiet hsummary
    rw [hcounted, Nat.zero_add]
    exact hsigned
  | absent | closed script =>
    rw [run, hstream] at hsummary ⊢
    cases hsummary
    rfl

/-! ### The reports of a run or a pause -/

/-- The **reports** of a session that was run, or paused under a name, and came to a summary and to
the session after it. -/
def reports (s : Session π) (prompt : Option Text) (summary : Summary π) (after : Session π) :
    List Log.Record :=
  (prompt.toList.map fun name ↦
    ⟨.info, "Pause session <".toList ++ name ++ "> start.".toList, some s.path.text⟩) ++
  runReports s summary.warnings summary.error (after.line?.getD 0) ++
  prompt.toList.map fun name ↦
    ⟨.info, "Pause session <".toList ++ name ++ "> Terminate.".toList, some s.path.text⟩

/-- A session signs its reports with the path of its own script. -/
theorem script_of_mem_reports {prompt : Option Text} {summary : Summary π} {after : Session π}
    {record : Log.Record} (h : record ∈ s.reports prompt summary after) :
    record.script = some s.path.text := by
  simp only [reports, runReports, List.mem_append, List.mem_map, List.mem_replicate] at h
  rcases h with (⟨_, -, rfl⟩ | ⟨-, rfl⟩ | ⟨_, -, rfl⟩) | ⟨_, -, rfl⟩ <;> rfl

/-- A run or a pause over a quiet executor: its signed records are its reports. -/
theorem signed_runOrPause (hquiet : x.Quiet nesting) (prompt : Option Text) (s : Session π)
    (state : σ) {summary : Summary π}
    (hsummary : (s.runOrPause x nesting prompt state).value.1 = .ok summary) :
    (s.runOrPause x nesting prompt state).trace.signed =
      s.reports prompt summary (s.runOrPause x nesting prompt state).value.2 := by
  rw [value_runOrPause] at hsummary ⊢
  have hrun := signed_run hquiet s state hsummary
  cases prompt with
  | none => simpa [runOrPause, reports] using hrun
  | some name =>
    rw [runOrPause, pause_eq, hsummary, Traced.after, Trace.signed_append, Trace.signed_append,
      hrun, reports, List.append_assoc]
    rfl

end Session

/-! ### The counts of a summary -/

/-- How many commands a summary **accounts** for: the successes, the failures without a code, and
the command that was rejected, if one was. -/
def Summary.accounted (summary : Summary π) : ℕ :=
  summary.commands + summary.warnings + if summary.error = none then 0 else 1

/-- A summary **counts** outcomes. -/
structure Summary.Counts (summary : Summary π) (outcomes : List Outcome) : Prop where
  /-- The successes are counted. -/
  commands : summary.commands = outcomes.countP Outcome.isSuccess
  /-- The reported failures are counted. -/
  warnings : summary.warnings = outcomes.countP Outcome.isFailure
  /-- No outcome has stopped the run, or one has and makes the error. -/
  stops : outcomes.countP Outcome.stops = if summary.error = none then 0 else 1

/-- A summary that counts outcomes accounts for all of them. -/
theorem Summary.Counts.length_eq {summary : Summary π} {outcomes : List Outcome}
    (h : summary.Counts outcomes) : outcomes.length = summary.accounted := by
  rw [← Outcome.countP_add_countP_add_countP, h.stops, accounted, h.commands, h.warnings]

namespace Session

variable {x : Executor π σ} {nesting : Nesting π σ} {s : Session π} {script : Script.Opened}
  {state : σ} {summary : Summary π}

/-- A run over a settled executor goes by the outcomes of the commands that it has handed over. -/
theorem exists_goes_run_settled (x : Executor π σ) (nesting nesting' : Nesting π σ) (state : σ)
    (hs : s.stream = .opened script) :
    ∃ last, Goes (x.settled nesting) nesting' s 0 0 state
      (s.run (x.settled nesting) nesting' state).trace.commands
        ((s.run (x.settled nesting) nesting' state).value.1, last) := by
  obtain ⟨handed, last, hgoes, -, -, htold⟩ :=
    exists_goes_run (x.settled nesting) nesting' state hs
  rw [Executor.commands_applyAll_settled] at htold
  exact ⟨last, htold ▸ hgoes⟩

/-- The summary of a run over a settled executor bears what the session hands back, and counts the
outcomes of the commands that this session has handed over. -/
theorem counts_run_settled (x : Executor π σ) (nesting nesting' : Nesting π σ) (s : Session π)
    (state : σ) (hsummary : (s.run (x.settled nesting) nesting' state).value.1 = .ok summary) :
    summary.previous = s.previous ∧
      summary.Counts (x.applyAll nesting state
        (s.run (x.settled nesting) nesting' state).trace.commands).value := by
  cases hstream : s.stream with
  | opened script =>
    obtain ⟨last, hgoes⟩ := exists_goes_run_settled x nesting nesting' state hstream
    obtain ⟨hprevious, hcommands, hwarnings⟩ := hgoes.counts hsummary
    have hstops := hgoes.countP_stops hsummary
    rw [(x.applyAll_settled nesting nesting' state _).1] at hcommands hwarnings hstops
    rw [Nat.zero_add] at hcommands hwarnings
    exact ⟨hprevious, hcommands, hwarnings, hstops⟩
  | absent | closed script =>
    rw [run, hstream] at hsummary ⊢
    cases hsummary
    exact ⟨rfl, rfl, rfl, rfl⟩

/-- What a quiet executor is handed in a turn is the command of the turn. -/
theorem commands_turnTrace_of_quiet {reply : Traced σ Outcome} (hreply : reply.trace = []) :
    (s.turnTrace script reply).commands = [script.reader.read.command] := by
  rw [commands_turnTrace, hreply, Trace.commands_nil]

/-- A run over a quiet executor comes to a summary when nothing escapes from the commands that it
has handed over. By induction on how the run unfolds: its outcomes are those of its turns. -/
theorem Unfolds.exists_ok {commands warnings : ℕ}
    {ran : Traced σ (Except Escape (Summary π) × Script.Opened)}
    (h : Unfolds x nesting s script commands warnings state ran) (hquiet : x.Quiet nesting)
    (houtcomes : ∀ outcome ∈ (x.applyAll nesting state ran.trace.commands).value,
      ∀ e, outcome ≠ .escaped e) :
    ∃ summary, ran.value.1 = .ok summary := by
  induction h with
  | exit => exact ⟨_, rfl⟩
  | comment _ _ _ ih =>
    rw [Traced.after, Trace.commands_append, commands_noted_append_shown, List.nil_append]
      at houtcomes
    exact ih houtcomes
  | stops _ _ hreply =>
    subst hreply
    rw [commands_turnTrace_of_quiet (hquiet _ _)] at houtcomes
    exact Outcome.exists_map_verdict_eq_ok_iff.2 (houtcomes _ List.mem_cons_self)
  | goesOn _ _ hreply _ _ ih =>
    subst hreply
    rw [Traced.after, Trace.commands_append, commands_turnTrace_of_quiet (hquiet _ _)]
      at houtcomes
    exact ih fun outcome houtcome ↦ houtcomes outcome (List.mem_cons_of_mem _ houtcome)

/-- A run of a session over a quiet executor comes to a summary when nothing escapes from the
commands that it has handed over. -/
theorem exists_ok_run (hquiet : x.Quiet nesting) (s : Session π) (state : σ)
    (houtcomes : ∀ outcome ∈
      (x.applyAll nesting state (s.run x nesting state).trace.commands).value,
        ∀ e, outcome ≠ .escaped e) :
    ∃ summary, (s.run x nesting state).value.1 = .ok summary := by
  cases hstream : s.stream with
  | opened script =>
    rw [run_of_opened x nesting state hstream] at houtcomes ⊢
    exact (unfolds_runFrom x nesting s script 0 0 state).exists_ok hquiet houtcomes
  | absent | closed script =>
    rw [run, hstream]
    exact ⟨_, rfl⟩

/-! ### The place after a run -/

/-- A settled command has the same outcome. -/
theorem outcomeAt_settled (x : Executor π σ) (nesting nesting' : Nesting π σ) (r : Reader)
    (state : σ) (n : ℕ) :
    outcomeAt (x.settled nesting) nesting' r state n = outcomeAt x nesting r state n := by
  rw [outcomeAt, Executor.complete_apply_settled, (x.applyAll_settled nesting nesting' state _).2,
    outcomeAt]

theorem stopsAt_settled_iff {nesting' : Nesting π σ} {r : Reader} {n : ℕ} :
    StopsAt (x.settled nesting) nesting' r state n ↔ StopsAt x nesting r state n := by
  rw [StopsAt, outcomeAt_settled, StopsAt]

theorem stopsFirst_settled_iff {nesting' : Nesting π σ} {r : Reader} {n : ℕ} :
    StopsFirst (x.settled nesting) nesting' r state n ↔ StopsFirst x nesting r state n := by
  simp only [StopsFirst, stopsAt_settled_iff]

/-- The settled executor keeps a script as the executor does. -/
theorem keeps_settled (hx : x.Keeps nesting script state) (nesting' : Nesting π σ) :
    (x.settled nesting).Keeps nesting' script state := by
  intro n hn octets hoctets
  rw [(x.applyAll_settled nesting nesting' state _).2] at hoctets
  exact hx n (fun k hk hstop ↦ hn k hk (stopsAt_settled_iff.2 hstop)) octets hoctets

/-- A run over a settled executor hands over the commands of its script up to where the run stops,
and stands right behind them. -/
theorem exists_stopsFirst_run_settled (nesting' : Nesting π σ) (hs : s.stream = .opened script)
    (hx : x.Keeps nesting script state) :
    ∃ n, StopsFirst x nesting script.reader state n ∧
      (s.run (x.settled nesting) nesting' state).trace.commands =
        dispatched script.reader (n + 1) ∧
      (s.run (x.settled nesting) nesting' state).value.2 =
        { s with stream := .opened (script.withReader (script.reader.after (n + 1))) } := by
  obtain ⟨n, hcourse⟩ := exists_course (keeps_settled hx nesting') s 0 0
  rw [run_of_opened _ nesting' state hs]
  refine ⟨n, stopsFirst_settled_iff.1 hcourse.stops, ?_, by rw [hcourse.place]⟩
  exact hcourse.handed.trans (x.commands_applyAll_settled nesting nesting' state _)

end Session

end CommandScript
