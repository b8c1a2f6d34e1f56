import CommandScript.Executor.Rehearsal
import CommandScript.Proofs.Unfolding

/-!
# The course of a run

What a run does is settled by the sequence of commands that its script still gives and by the
executor alone. `Executor.applyAll` hands a list of commands to an executor, one after another, and
knows nothing of scripts. The run stops at the least command that is the exit command, or that the
executor refuses or breaks down on (`StopsFirst`); up to there it hands over the commands that are
no comments, and its summary counts their outcomes.

`exists_course` is the run as such, by induction on how it unfolds: what is counted in a turn is
added to what comes after it, and the command of the turn stands before the others.
-/
namespace CommandScript

variable {π σ : Type}

/-! ### Commands for an executor -/

/-- Hands commands to an executor one after another: their outcomes, the state after them, and what
is done on the way. -/
def Executor.applyAll (x : Executor π σ) (nesting : Nesting π σ) (state : σ) :
    List Text → Traced σ (List Outcome)
  | [] => ⟨[], state, []⟩
  | command :: rest =>
    let reply := (x.apply state command).complete nesting
    let others := x.applyAll nesting reply.state rest
    ⟨reply.value :: others.value, others.state, .applied command :: reply.trace ++ others.trace⟩

/-- Every command has one outcome. -/
theorem Executor.length_value_applyAll (x : Executor π σ) (nesting : Nesting π σ) (state : σ)
    (commands : List Text) :
    (x.applyAll nesting state commands).value.length = commands.length := by
  induction commands generalizing state with
  | nil => rfl
  | cons command commands ih =>
    rw [applyAll, List.length_cons, List.length_cons, ih]

/-- One more command has one more outcome, in the state after the others. -/
theorem Executor.value_applyAll_concat (x : Executor π σ) (nesting : Nesting π σ) (state : σ)
    (before : List Text) (command : Text) :
    (x.applyAll nesting state (before ++ [command])).value =
      (x.applyAll nesting state before).value ++
        [((x.apply (x.applyAll nesting state before).state command).complete nesting).value] := by
  induction before generalizing state with
  | nil => rfl
  | cons first before ih =>
    rw [List.cons_append, applyAll, applyAll, ih]
    rfl

namespace Session

/-- Whether a command goes to the executor when a run reads it: it is neither the exit command nor
a comment. -/
def isDispatched (command : Text) : Bool := decide (command ≠ exitCommand) && !isComment command

theorem isDispatched_eq_true_iff (command : Text) :
    isDispatched command = true ↔ command ≠ exitCommand ∧ isComment command = false := by
  simp [isDispatched]

/-- The commands that go to the executor among the first that a reader gives. -/
def dispatched (r : Reader) (n : ℕ) : List Text := (r.commands n).filter isDispatched

/-! ### Where a run stops -/

/-- The outcome of the command with an index, after those before it have been handed over. -/
def outcomeAt (x : Executor π σ) (nesting : Nesting π σ) (r : Reader) (state : σ) (n : ℕ) :
    Outcome :=
  ((x.apply (x.applyAll nesting state (dispatched r n)).state (r.commandAt n)).complete
    nesting).value

/-- Whether a run stops at the command with an index when it comes to it. -/
def StopsAt (x : Executor π σ) (nesting : Nesting π σ) (r : Reader) (state : σ) (n : ℕ) : Prop :=
  r.commandAt n = exitCommand ∨
    isComment (r.commandAt n) = false ∧ (outcomeAt x nesting r state n).stops = true

/-- **Where a run stops**: at the least command at which it can. -/
def StopsFirst (x : Executor π σ) (nesting : Nesting π σ) (r : Reader) (state : σ) (n : ℕ) : Prop :=
  StopsAt x nesting r state n ∧ ∀ k < n, ¬StopsAt x nesting r state k

/-- What a run comes to that stops at the command with an index. -/
def endingAt (x : Executor π σ) (nesting : Nesting π σ) (r : Reader) (state : σ) (n : ℕ) :
    Except Escape (Option Rejection) :=
  if r.commandAt n = exitCommand then .ok none
  else (outcomeAt x nesting r state n).verdict (r.commandAt n)

/-! ### One command set apart -/

/-- The state in which a turn with a command leaves the executor. -/
def turnState (x : Executor π σ) (nesting : Nesting π σ) (command : Text) (state : σ) : σ :=
  if isDispatched command then ((x.apply state command).complete nesting).state else state

theorem turnState_of_isComment {x : Executor π σ} {nesting : Nesting π σ} {command : Text}
    (h : isComment command = true) (state : σ) : turnState x nesting command state = state := by
  rw [turnState, if_neg (by simp [isDispatched, h])]

theorem turnState_of_not_isComment {x : Executor π σ} {nesting : Nesting π σ} {command : Text}
    (h : command ≠ exitCommand) (hcomment : isComment command = false) (state : σ) :
    turnState x nesting command state = ((x.apply state command).complete nesting).state :=
  if_pos ((isDispatched_eq_true_iff command).2 ⟨h, hcomment⟩)

theorem dispatched_succ (r : Reader) (n : ℕ) :
    dispatched r (n + 1) =
      if isDispatched r.read.command then r.read.command :: dispatched r.read.reader n
      else dispatched r.read.reader n := by
  rw [dispatched, Reader.commands_succ, List.filter_cons, dispatched]

variable {x : Executor π σ} {nesting : Nesting π σ} {r : Reader} {state : σ}

/-- The state after the first commands: that after the first turn, and then after the others. -/
theorem state_applyAll_dispatched_succ (n : ℕ) :
    (x.applyAll nesting state (dispatched r (n + 1))).state =
      (x.applyAll nesting (turnState x nesting r.read.command state)
        (dispatched r.read.reader n)).state := by
  rw [dispatched_succ, turnState]
  split <;> rfl

theorem outcomeAt_succ (n : ℕ) :
    outcomeAt x nesting r state (n + 1) =
      outcomeAt x nesting r.read.reader (turnState x nesting r.read.command state) n := by
  rw [outcomeAt, state_applyAll_dispatched_succ, Reader.commandAt_succ, outcomeAt]

theorem stopsAt_succ_iff {n : ℕ} :
    StopsAt x nesting r state (n + 1) ↔
      StopsAt x nesting r.read.reader (turnState x nesting r.read.command state) n := by
  rw [StopsAt, outcomeAt_succ, Reader.commandAt_succ, StopsAt]

theorem endingAt_succ (n : ℕ) :
    endingAt x nesting r state (n + 1) =
      endingAt x nesting r.read.reader (turnState x nesting r.read.command state) n := by
  rw [endingAt, outcomeAt_succ, Reader.commandAt_succ, endingAt]

theorem stopsFirst_zero (h : StopsAt x nesting r state 0) : StopsFirst x nesting r state 0 :=
  ⟨h, fun k hk ↦ absurd hk (Nat.not_lt_zero k)⟩

theorem StopsFirst.succ {n : ℕ}
    (h : StopsFirst x nesting r.read.reader (turnState x nesting r.read.command state) n)
    (h0 : ¬StopsAt x nesting r state 0) : StopsFirst x nesting r state (n + 1) := by
  refine ⟨stopsAt_succ_iff.2 h.1, fun k hk ↦ ?_⟩
  cases k with
  | zero => exact h0
  | succ k => exact fun hk' ↦ h.2 k (by omega) (stopsAt_succ_iff.1 hk')

/-- What has been handed over after the first commands: in the first turn, and then in the
others. -/
theorem commands_applyAll_dispatched_succ (n : ℕ) :
    (x.applyAll nesting state (dispatched r (n + 1))).trace.commands =
      (if isDispatched r.read.command then
        r.read.command :: ((x.apply state r.read.command).complete nesting).trace.commands
      else []) ++
        (x.applyAll nesting (turnState x nesting r.read.command state)
          (dispatched r.read.reader n)).trace.commands := by
  rw [dispatched_succ, turnState]
  split
  · exact Trace.commands_append (.applied r.read.command :: _) _
  · rfl

/-- The outcomes of a kind among the first commands: in the first turn, and then in the others. -/
theorem countP_applyAll_dispatched_succ (p : Outcome → Bool) (n : ℕ) :
    (x.applyAll nesting state (dispatched r (n + 1))).value.countP p =
      (if isDispatched r.read.command = true ∧
          p ((x.apply state r.read.command).complete nesting).value = true then 1 else 0) +
        (x.applyAll nesting (turnState x nesting r.read.command state)
          (dispatched r.read.reader n)).value.countP p := by
  rw [dispatched_succ, turnState]
  cases hdispatched : isDispatched r.read.command with
  | true =>
    simp only [if_true, true_and, Executor.applyAll]
    rw [List.countP_cons, Nat.add_comm]
  | false => simp

theorem StopsFirst.of_succ {n : ℕ} (h : StopsFirst x nesting r state (n + 1)) :
    StopsFirst x nesting r.read.reader (turnState x nesting r.read.command state) n :=
  ⟨stopsAt_succ_iff.1 h.1, fun k hk hstop ↦ h.2 (k + 1) (by omega) (stopsAt_succ_iff.2 hstop)⟩

/-- Up to where a run stops, no outcome stops it but the last, unless that is the exit command. -/
theorem StopsFirst.countP_stops {n : ℕ} (h : StopsFirst x nesting r state n) :
    (x.applyAll nesting state (dispatched r (n + 1))).value.countP Outcome.stops =
      if r.commandAt n = exitCommand then 0 else 1 := by
  induction n generalizing r state with
  | zero =>
    -- the run stops at its first command, which is handed over unless it is the exit command
    rw [countP_applyAll_dispatched_succ]
    by_cases hexit : r.commandAt 0 = exitCommand
    · have hdispatched : isDispatched r.read.command = false := by
        rw [show r.read.command = exitCommand from hexit]
        rfl
      rw [if_pos hexit, if_neg (by simp [hdispatched])]
      rfl
    · obtain ⟨hcomment, hstops⟩ := h.1.resolve_left hexit
      rw [if_neg hexit, if_pos ⟨(isDispatched_eq_true_iff _).2 ⟨hexit, hcomment⟩, hstops⟩]
      rfl
  | succ n ih =>
    have hfirst : ¬(isDispatched r.read.command = true ∧
        ((x.apply state r.read.command).complete nesting).value.stops = true) := by
      rintro ⟨hdispatched, hstops⟩
      exact h.2 0 (by omega) (.inr ⟨((isDispatched_eq_true_iff _).1 hdispatched).2, hstops⟩)
    rw [countP_applyAll_dispatched_succ, if_neg hfirst, ih h.of_succ, Nat.zero_add,
      Reader.commandAt_succ]

/-- A run stops at one command only. -/
theorem StopsFirst.eq {m n : ℕ} (hm : StopsFirst x nesting r state m)
    (hn : StopsFirst x nesting r state n) : m = n := by
  rcases Nat.lt_trichotomy m n with hlt | heq | hlt
  · exact absurd hm.1 (hn.2 m hlt)
  · exact heq
  · exact absurd hn.1 (hm.2 n hlt)

/-- A run that stops at the exit command comes to no error, any other to a rejection or to what
escapes. -/
theorem StopsFirst.endingAt_eq_none_iff {n : ℕ} (h : StopsFirst x nesting r state n) :
    endingAt x nesting r state n = .ok none ↔ r.commandAt n = exitCommand := by
  rw [endingAt]
  by_cases hexit : r.commandAt n = exitCommand
  · simp [hexit]
  · obtain ⟨-, hstops⟩ := h.1.resolve_left hexit
    rw [if_neg hexit]
    simp only [hexit, iff_false]
    exact Outcome.verdict_ne_none_of_stops hstops _

theorem not_stopsAt_zero_of_not_stops (hexit : r.read.command ≠ exitCommand)
    (h : isComment r.read.command = true ∨
      ((x.apply state r.read.command).complete nesting).value.stops = false) :
    ¬StopsAt x nesting r state 0 := by
  rintro (hstop | ⟨hcomment, hstop⟩)
  · exact hexit hstop
  · rcases h with h | h
    · rw [Reader.commandAt_zero, h] at hcomment
      exact absurd hcomment (by simp)
    · rw [show outcomeAt x nesting r state 0 =
        ((x.apply state r.read.command).complete nesting).value from rfl, h] at hstop
      exact absurd hstop (by simp)

end Session

/-! ### Executors that keep a script -/

section Keeps

open Session

variable {x : Executor π σ} {nesting : Nesting π σ} {script : Script.Opened} {state : σ}

/-- An executor **keeps** the script of a run from a state when the file of the script holds, for as
long as the run reads on, what the lines of the script were taken from. -/
def Executor.Keeps (x : Executor π σ) (nesting : Nesting π σ) (script : Script.Opened)
    (state : σ) : Prop :=
  ∀ n, (∀ k < n, ¬StopsAt x nesting script.reader state k) →
    ∀ octets ∈ x.octets? (x.applyAll nesting state (dispatched script.reader n)).state script.file,
      octets = script.octets

/-- An executor that has no files keeps every script. -/
theorem Executor.keeps_of_octets?_eq_none (h : ∀ state file, x.octets? state file = none)
    (nesting : Nesting π σ) (script : Script.Opened) (state : σ) :
    x.Keeps nesting script state := by
  intro n _ octets hoctets
  rw [h] at hoctets
  cases hoctets

/-- A script that is kept is up to date. -/
theorem Executor.Keeps.upToDate_eq (h : x.Keeps nesting script state) :
    script.upToDate (x.octets? state script.file) = script := by
  have hoctets : ∀ octets ∈ x.octets? state script.file, octets = script.octets :=
    h 0 fun k hk ↦ absurd hk (Nat.not_lt_zero k)
  rw [Script.Opened.upToDate]
  cases hfile : x.octets? state script.file with
  | none => rfl
  | some octets =>
    rw [Option.bind_some, Script.Opened.updated?, if_pos (hoctets octets hfile), Option.getD_none]

/-- A script that is kept is kept behind the first command, if the run goes on there. -/
theorem Executor.Keeps.next (h : x.Keeps nesting script state)
    (h0 : ¬StopsAt x nesting script.reader state 0) :
    x.Keeps nesting script.next (turnState x nesting script.reader.read.command state) := by
  intro n hn
  have hstate : (x.applyAll nesting state (dispatched script.reader (n + 1))).state =
      (x.applyAll nesting (turnState x nesting script.reader.read.command state)
        (dispatched script.next.reader n)).state := state_applyAll_dispatched_succ n
  refine fun octets hoctets ↦ h (n + 1) (fun k hk ↦ ?_) octets (hstate ▸ hoctets)
  cases k with
  | zero => exact h0
  | succ k => exact fun hstop ↦ hn k (by omega) (stopsAt_succ_iff.1 hstop)

/-- A script that is kept is kept behind a comment. -/
theorem Executor.Keeps.comment (h : x.Keeps nesting script state)
    (hexit : script.reader.read.command ≠ exitCommand)
    (hcomment : isComment script.reader.read.command = true) :
    x.Keeps nesting script.next state := by
  have hnext := h.next (not_stopsAt_zero_of_not_stops hexit (.inl hcomment))
  rwa [turnState_of_isComment hcomment] at hnext

/-- A script that is kept is kept behind a command that lets the run go on, and it is up to date
there. -/
theorem Executor.Keeps.command (h : x.Keeps nesting script state)
    (hexit : script.reader.read.command ≠ exitCommand)
    (hcomment : isComment script.reader.read.command = false) {reply : Traced σ Outcome}
    (hreply : (x.apply state script.reader.read.command).complete nesting = reply)
    (hstops : reply.value.stops = false) :
    x.Keeps nesting script.next reply.state ∧
      script.next.upToDate (x.octets? reply.state script.file) = script.next := by
  have hnext := h.next (not_stopsAt_zero_of_not_stops hexit (.inr (by rwa [hreply])))
  rw [turnState_of_not_isComment hexit hcomment, hreply] at hnext
  exact ⟨hnext, hnext.upToDate_eq⟩

end Keeps

namespace Session

variable {x : Executor π σ} {nesting : Nesting π σ} {r : Reader} {state : σ}

/-! ### The run -/

/-- The **course** of a run from a place in a script, with what has been counted before: where it
stops, where it leaves the script and the executor, which commands it hands over, and what it comes
to. -/
structure Course (x : Executor π σ) (nesting : Nesting π σ) (s : Session π)
    (script : Script.Opened) (commands warnings : ℕ) (state : σ)
    (ran : Traced σ (Except Escape (Summary π) × Script.Opened)) (n : ℕ) : Prop where
  /-- The run stops at the command with the index. -/
  stops : StopsFirst x nesting script.reader state n
  /-- The script stands right after that command. -/
  place : ran.value.2 = script.withReader (script.reader.after (n + 1))
  /-- The executor is left as after the commands up to it. -/
  left : ran.state = (x.applyAll nesting state (dispatched script.reader (n + 1))).state
  /-- The executor has been handed those commands. -/
  handed : ran.trace.commands =
    (x.applyAll nesting state (dispatched script.reader (n + 1))).trace.commands
  /-- The successes and the reported failures are counted. -/
  result : ran.value.1 = (endingAt x nesting script.reader state n).map fun error ↦
    ⟨s.previous,
      commands + (x.applyAll nesting state
        (dispatched script.reader (n + 1))).value.countP Outcome.isSuccess,
      warnings + (x.applyAll nesting state
        (dispatched script.reader (n + 1))).value.countP Outcome.isFailure,
      error⟩

variable {s : Session π} {script : Script.Opened} {commands warnings : ℕ}

/-- A run that stops at the exit command. -/
theorem course_of_exit (h : script.reader.read.command = exitCommand) :
    Course x nesting s script commands warnings state
      ⟨(.ok ⟨s.previous, commands, warnings, none⟩, script.next), state,
        script.reader.read.records.map Event.logged⟩ 0 := by
  have hdispatched : dispatched script.reader 1 = [] := by
    rw [dispatched_succ, h]
    rfl
  refine ⟨stopsFirst_zero (.inl h), rfl, ?_, ?_, ?_⟩
  · rw [hdispatched]
    rfl
  · rw [hdispatched, Trace.commands_map_logged]
    rfl
  · rw [hdispatched, endingAt, Reader.commandAt_zero, if_pos h]
    rfl

/-- A run that stops at the first command by its outcome. -/
theorem course_of_stops {reply : Traced σ Outcome}
    (h : script.reader.read.command ≠ exitCommand)
    (hcomment : isComment script.reader.read.command = false)
    (hreply : (x.apply state script.reader.read.command).complete nesting = reply)
    (hstops : reply.value.stops = true) :
    Course x nesting s script commands warnings state
      ⟨((reply.value.verdict script.reader.read.command).map fun error ↦
        ⟨s.previous, commands, warnings, error⟩, script.next), reply.state,
        s.turnTrace script reply⟩ 0 := by
  have hdispatched : dispatched script.reader 1 = [script.reader.read.command] := by
    rw [dispatched_succ, if_pos ((isDispatched_eq_true_iff _).2 ⟨h, hcomment⟩)]
    rfl
  subst hreply
  refine ⟨stopsFirst_zero (.inr ⟨hcomment, hstops⟩), rfl, ?_, ?_, ?_⟩
  · rw [hdispatched]
    rfl
  · rw [hdispatched, commands_turnTrace, Executor.applyAll, Trace.commands_append,
      Trace.commands_applied_cons]
    exact (List.append_nil _).symm
  · rw [hdispatched, endingAt, Reader.commandAt_zero, if_neg h, Executor.applyAll]
    simp only [List.countP_cons, Outcome.isSuccess_of_stops hstops,
      Outcome.isFailure_of_stops hstops]
    rfl

/-- One turn before a run: what it hands over and counts is added. -/
theorem Course.succ {commands' warnings' n : ℕ} {before : Trace}
    {ran : Traced σ (Except Escape (Summary π) × Script.Opened)}
    (h : Course x nesting s script.next commands' warnings'
      (turnState x nesting script.reader.read.command state) ran n)
    (h0 : ¬StopsAt x nesting script.reader state 0)
    (hbefore : before.commands = if isDispatched script.reader.read.command then
      script.reader.read.command ::
        ((x.apply state script.reader.read.command).complete nesting).trace.commands else [])
    (hcommands : commands' = commands + if isDispatched script.reader.read.command = true ∧
      ((x.apply state script.reader.read.command).complete nesting).value.isSuccess = true
        then 1 else 0)
    (hwarnings : warnings' = warnings + if isDispatched script.reader.read.command = true ∧
      ((x.apply state script.reader.read.command).complete nesting).value.isFailure = true
        then 1 else 0) :
    Course x nesting s script commands warnings state (ran.after before) (n + 1) := by
  refine ⟨h.stops.succ h0, ?_, ?_, ?_, ?_⟩
  · rw [Reader.after_succ']
    exact h.place
  · rw [state_applyAll_dispatched_succ]
    exact h.left
  · rw [commands_applyAll_dispatched_succ, Traced.after, Trace.commands_append, hbefore, h.handed]
    rfl
  · rw [endingAt_succ, countP_applyAll_dispatched_succ Outcome.isSuccess,
      countP_applyAll_dispatched_succ Outcome.isFailure, ← Nat.add_assoc, ← Nat.add_assoc,
      ← hcommands, ← hwarnings]
    exact h.result

/-- A comment before the rest of a run. -/
theorem Course.comment {n : ℕ} {before : Trace}
    {ran : Traced σ (Except Escape (Summary π) × Script.Opened)}
    (h : Course x nesting s script.next commands warnings state ran n)
    (hexit : script.reader.read.command ≠ exitCommand)
    (hcomment : isComment script.reader.read.command = true) (hbefore : before.commands = []) :
    Course x nesting s script commands warnings state (ran.after before) (n + 1) := by
  have hdispatched : isDispatched script.reader.read.command = false := by
    simp [isDispatched, hcomment]
  refine Course.succ (by rwa [turnState_of_isComment hcomment])
    (not_stopsAt_zero_of_not_stops hexit (.inl hcomment)) ?_ ?_ ?_
  · rw [hbefore, hdispatched]
    rfl
  · simp [hdispatched]
  · simp [hdispatched]

/-- A counted command before the rest of a run. -/
theorem Course.command {n : ℕ} {reply : Traced σ Outcome}
    {ran : Traced σ (Except Escape (Summary π) × Script.Opened)}
    (h : Course x nesting s script.next (commands + if reply.value.isSuccess then 1 else 0)
      (warnings + if reply.value.isFailure then 1 else 0) reply.state ran n)
    (hexit : script.reader.read.command ≠ exitCommand)
    (hcomment : isComment script.reader.read.command = false)
    (hreply : (x.apply state script.reader.read.command).complete nesting = reply)
    (hstops : reply.value.stops = false) :
    Course x nesting s script commands warnings state (ran.after (s.turnTrace script reply))
      (n + 1) := by
  have hdispatched : isDispatched script.reader.read.command = true :=
    (isDispatched_eq_true_iff _).2 ⟨hexit, hcomment⟩
  refine Course.succ (by rwa [turnState_of_not_isComment hexit hcomment, hreply])
    (not_stopsAt_zero_of_not_stops hexit (.inr (by rwa [hreply]))) ?_ ?_ ?_
  · rw [commands_turnTrace, if_pos hdispatched, hreply]
  · simp only [hdispatched, true_and, hreply]
  · simp only [hdispatched, true_and, hreply]

/-- **Every run has a course** over an executor that keeps its script. By induction on how the run
unfolds: the script goes on as it is, so its next commands are those that it had to give. -/
theorem Unfolds.exists_course {ran : Traced σ (Except Escape (Summary π) × Script.Opened)}
    (h : Unfolds x nesting s script commands warnings state ran)
    (hx : x.Keeps nesting script state) :
    ∃ n, Course x nesting s script commands warnings state ran n := by
  induction h with
  | exit h => exact ⟨0, course_of_exit h⟩
  | comment h hcomment _ ih =>
    obtain ⟨n, hn⟩ := ih (hx.comment h hcomment)
    exact ⟨n + 1, hn.comment h hcomment (commands_noted_append_shown _ _ _)⟩
  | stops h hcomment hreply hstops => exact ⟨0, course_of_stops h hcomment hreply hstops⟩
  | goesOn h hcomment hreply hstops _ ih =>
    obtain ⟨hnext, hsame⟩ := hx.command h hcomment hreply hstops
    rw [hsame] at ih
    obtain ⟨n, hn⟩ := ih hnext
    exact ⟨n + 1, hn.command h hcomment hreply hstops⟩

theorem exists_course (hx : x.Keeps nesting script state) (s : Session π)
    (commands warnings : ℕ) :
    ∃ n, Course x nesting s script commands warnings state
      (runFrom x nesting s script commands warnings state) n :=
  (unfolds_runFrom x nesting s script commands warnings state).exists_course hx

/-! ### A run of a session -/

/-- What a run comes to that stops at the command with an index and has counted the outcomes of the
commands up to it. -/
def summaryAt (x : Executor π σ) (nesting : Nesting π σ) (s : Session π) (r : Reader) (state : σ)
    (n : ℕ) : Except Escape (Summary π) :=
  let received := x.applyAll nesting state (dispatched r (n + 1))
  (endingAt x nesting r state n).map fun error ↦
    ⟨s.previous, received.value.countP Outcome.isSuccess, received.value.countP Outcome.isFailure,
      error⟩

/-- The result of a run that has counted nothing before. -/
theorem Course.result_eq_summaryAt {ran : Traced σ (Except Escape (Summary π) × Script.Opened)}
    {n : ℕ} (h : Course x nesting s script 0 0 state ran n) :
    ran.value.1 = summaryAt x nesting s script.reader state n := by
  rw [h.result, summaryAt]
  simp only [Nat.zero_add]

/-- The summary of a run bears an error unless the run has come to the exit command, and it counts
all commands that have been handed over but the one of the error. -/
theorem StopsFirst.of_summaryAt {n : ℕ} (h : StopsFirst x nesting r state n) {summary : Summary π}
    (hsummary : summaryAt x nesting s r state n = .ok summary) :
    (summary.error = none ↔ r.commandAt n = exitCommand) ∧
      (dispatched r (n + 1)).length =
        summary.commands + summary.warnings + if summary.error = none then 0 else 1 := by
  have hcount := Outcome.countP_add_countP_add_countP
    (x.applyAll nesting state (dispatched r (n + 1))).value
  rw [Executor.length_value_applyAll, h.countP_stops] at hcount
  have hnone := h.endingAt_eq_none_iff
  rw [summaryAt] at hsummary
  cases hending : endingAt x nesting r state n with
  | error e => simp [hending, Except.map] at hsummary
  | ok error =>
    rw [hending] at hsummary hnone
    obtain rfl := Except.ok.inj hsummary
    have herror : error = none ↔ r.commandAt n = exitCommand := by
      rw [← hnone, Except.ok.injEq]
    refine ⟨herror, ?_⟩
    simp only [herror]
    rw [← hcount]

/-- **A run follows the commands of its script.** It stops at the least command that is the exit
command or that the executor refuses or breaks down on, and the script stands right after that one.
The executor has been handed, once and in their order, the commands up to there that are neither
comments nor the exit command, and nothing else. The summary counts their outcomes, and its error is
the rejection of the last of them, or none when the run has come to the exit command. -/
theorem run_follows_commands (x : Executor π σ) (nesting : Nesting π σ) (s : Session π)
    (script : Script.Opened) (state : σ) (hs : s.stream = .opened script)
    (hx : x.Keeps nesting script state) :
    ∃ n, StopsFirst x nesting script.reader state n ∧
      let handed := dispatched script.reader (n + 1)
      let received := x.applyAll nesting state handed
      let ran := s.run x nesting state
      ran.value.2 =
          { s with stream := .opened (script.withReader (script.reader.after (n + 1))) } ∧
        ran.state = received.state ∧
        ran.trace.commands = received.trace.commands ∧
        ran.value.1 = (endingAt x nesting script.reader state n).map (fun error ↦
          ⟨s.previous, received.value.countP Outcome.isSuccess,
            received.value.countP Outcome.isFailure, error⟩) ∧
        ∀ summary, ran.value.1 = .ok summary →
          (summary.error = none ↔ script.reader.commandAt n = exitCommand) ∧
            handed.length =
              summary.commands + summary.warnings + if summary.error = none then 0 else 1 := by
  obtain ⟨n, hcourse⟩ := exists_course hx s 0 0
  have hresult := hcourse.result_eq_summaryAt
  refine ⟨n, hcourse.stops, ?_⟩
  rw [run_of_opened x nesting state hs]
  refine ⟨by rw [hcourse.place], hcourse.left, hcourse.handed, hresult, fun summary hsummary ↦ ?_⟩
  rw [hresult] at hsummary
  exact hcourse.stops.of_summaryAt hsummary

/-- A run that reads a comment, a command of two lines, a command whose failure is reported, and a
command that is rejected, after which another one is left. -/
theorem run_follows_commands_rehearsal :
    let x : Executor Unit (RehearsalState Unit) := .rehearsal
    let nesting : Nesting Unit (RehearsalState Unit) := fun _ state ↦ ⟨.error .tooDeep, state, []⟩
    let script : Script.Opened := .withReader (.atStart 0 [])
      (.ofText "# release\nbuild _\nall\ntest\nship it\ntidy\n".toList)
    let s : Session Unit := ⟨.ofText "release".toList, (), defaultEchoLevel, .opened script⟩
    let state : RehearsalState Unit := ⟨0, .ofCode 0,
      [("test".toList, [⟨none, some "flaky".toList, none, none, 0⟩]),
        ("ship it".toList, [.ofCode 305])]⟩
    s.stream = .opened script ∧ x.Keeps nesting script state ∧
      ∃ n, StopsFirst x nesting script.reader state n ∧
        (s.run x nesting state).value.1 = summaryAt x nesting s script.reader state n := by
  intro x nesting script s state
  have hkeeps : x.Keeps nesting script state :=
    Executor.keeps_of_octets?_eq_none (fun _ _ ↦ rfl) nesting script state
  obtain ⟨n, hstops, -, -, -, hresult, -⟩ :=
    run_follows_commands x nesting s script state rfl hkeeps
  exact ⟨rfl, hkeeps, n, hstops, hresult⟩

end Session

end CommandScript
