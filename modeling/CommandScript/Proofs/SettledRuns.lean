import CommandScript.Proofs.Course
import CommandScript.Proofs.Unfolding

/-!
# Runs over settled replies

A reply may log, print and run other scripts before it is complete. A **settled** executor gives the
same outcomes at once and does nothing else, so a run over it shows what a session does by itself.
Whatever an executor does within its replies, the session that waits for them comes to the same
result, stands at the same place of its script and leaves the same state as over the settled
executor, and what it does by itself is done in the same order (`Settled`); the rest of the trace is
what the replies do.
-/
namespace CommandScript

variable {π σ α : Type} {x : Executor π σ} {nesting nesting' : Nesting π σ}

/-- The executor whose replies are **settled**: each is the outcome to which the reply of the given
executor comes, in the state in which it leaves that executor. -/
def Executor.settled (x : Executor π σ) (nesting : Nesting π σ) : Executor π σ where
  verboseLevel := x.verboseLevel
  octets? := x.octets?
  apply state command :=
    let reply := (x.apply state command).complete nesting
    .answer reply.state reply.value

/-- A settled reply is complete. -/
theorem Executor.complete_apply_settled (x : Executor π σ) (nesting nesting' : Nesting π σ)
    (state : σ) (command : Text) :
    (((x.settled nesting).apply state command).complete nesting') =
      ⟨((x.apply state command).complete nesting).value,
        ((x.apply state command).complete nesting).state, []⟩ := rfl

/-- The replies to commands that are handed over one after another. -/
def Executor.replies (x : Executor π σ) (nesting : Nesting π σ) (state : σ) :
    List Text → List (Reply π σ)
  | [] => []
  | command :: rest =>
    x.apply state command ::
      x.replies nesting ((x.apply state command).complete nesting).state rest

/-- Settled commands have the same outcomes and leave the same state. -/
theorem Executor.applyAll_settled (x : Executor π σ) (nesting nesting' : Nesting π σ) (state : σ)
    (commands : List Text) :
    ((x.settled nesting).applyAll nesting' state commands).value =
        (x.applyAll nesting state commands).value ∧
      ((x.settled nesting).applyAll nesting' state commands).state =
        (x.applyAll nesting state commands).state := by
  induction commands generalizing state with
  | nil => exact ⟨rfl, rfl⟩
  | cons command commands ih =>
    rw [applyAll, complete_apply_settled, applyAll]
    obtain ⟨hvalue, hstate⟩ := ih ((x.apply state command).complete nesting).state
    exact ⟨congrArg (_ :: ·) hvalue, hstate⟩

/-- A settled executor is handed the commands and nothing else. -/
theorem Executor.commands_applyAll_settled (x : Executor π σ) (nesting nesting' : Nesting π σ)
    (state : σ) (commands : List Text) :
    ((x.settled nesting).applyAll nesting' state commands).trace.commands = commands := by
  induction commands generalizing state with
  | nil => rfl
  | cons command commands ih =>
    rw [applyAll, complete_apply_settled, Trace.commands_append, Trace.commands_applied_cons,
      Trace.commands_nil, ih, List.singleton_append]

/-- What is done within the replies to commands. -/
def Executor.replyTrace (x : Executor π σ) (nesting : Nesting π σ) (state : σ)
    (commands : List Text) : Trace :=
  (x.replies nesting state commands).flatMap fun reply ↦ (reply.complete nesting).trace

/-- How a run is related to the run over the **settled** executor. -/
structure Settled (x : Executor π σ) (nesting : Nesting π σ) (state : σ) (ran own : Traced σ α) :
    Prop where
  /-- They come to the same. -/
  value : ran.value = own.value
  /-- They leave the executor in the same state. -/
  left : ran.state = own.state
  /-- What is done over the settled executor is done in the run, in the same order. -/
  sublist : own.trace.Sublist ran.trace
  /-- The rest is what the replies do. -/
  perm : ran.trace.Perm (own.trace ++ x.replyTrace nesting state own.trace.commands)
  /-- The commands of the run are those of the settled one, each with those of its reply. -/
  told : ran.trace.commands = (x.applyAll nesting state own.trace.commands).trace.commands

/-- What is done before two runs without a command for the executor. -/
theorem Settled.after {state : σ} {ran own : Traced σ α} (h : Settled x nesting state ran own)
    {before : Trace} (hbefore : before.commands = []) :
    Settled x nesting state (ran.after before) (own.after before) := by
  refine ⟨h.value, h.left, h.sublist.append_left before, ?_, ?_⟩
  · rw [Traced.after, Traced.after, Trace.commands_append, hbefore, List.nil_append,
      List.append_assoc]
    exact h.perm.append_left before
  · rw [Traced.after, Traced.after, Trace.commands_append, Trace.commands_append, hbefore]
    exact h.told

/-- What is done behind two runs without a command for the executor. -/
theorem Settled.before {state : σ} {ran own : Traced σ α} (h : Settled x nesting state ran own)
    {after : Trace} (hafter : after.commands = []) :
    Settled x nesting state { ran with trace := ran.trace ++ after }
      { own with trace := own.trace ++ after } := by
  refine ⟨h.value, h.left, h.sublist.append_right after, ?_, ?_⟩
  · rw [Trace.commands_append, hafter, List.append_nil, List.append_assoc]
    refine (h.perm.append_right after).trans ?_
    rw [List.append_assoc]
    exact List.perm_append_comm.append_left own.trace
  · rw [Trace.commands_append, Trace.commands_append, hafter, List.append_nil, List.append_nil]
    exact h.told

namespace Session

variable {s : Session π} {script : Script.Opened} {commands warnings : ℕ} {state : σ}

/-- A turn before a run that goes on, or before nothing: the reply to its command is done behind the
command, and the session goes on as over the settled executor. -/
theorem settled_after_turnTrace {reply : Traced σ Outcome} {ran own : Traced σ α}
    (hreply : (x.apply state script.reader.read.command).complete nesting = reply)
    (h : Settled x nesting reply.state ran own) :
    Settled x nesting state (ran.after (s.turnTrace script reply))
      (own.after (s.turnTrace script ⟨reply.value, reply.state, []⟩)) := by
  have hcommands : (own.after (s.turnTrace script
      (⟨reply.value, reply.state, []⟩ : Traced σ Outcome))).trace.commands =
        script.reader.read.command :: own.trace.commands := by
    rw [Traced.after, Trace.commands_append, commands_turnTrace]
    rfl
  have htrace : x.replyTrace nesting state (script.reader.read.command :: own.trace.commands) =
      reply.trace ++ x.replyTrace nesting reply.state own.trace.commands := by
    rw [Executor.replyTrace, Executor.replies, List.flatMap_cons, hreply]
    rfl
  refine ⟨h.value, h.left, ?_, ?_, ?_⟩
  · refine List.Sublist.append ?_ h.sublist
    rw [turnTrace, turnTrace]
    exact ((List.nil_sublist _).cons_cons _).append_left _ |>.append_right _
  · rw [hcommands, htrace]
    -- the reply stands between what is noted before the command and what follows the outcome
    refine (h.perm.append_left _).trans ?_
    simp only [Traced.after, turnTrace, List.perm_iff_count, List.count_append, List.count_cons,
      List.count_nil]
    intro event
    omega
  · rw [hcommands, Executor.applyAll, hreply, Traced.after, Trace.commands_append,
      commands_turnTrace, h.told, Trace.commands_append, Trace.commands_applied_cons]

/-- What hands over no command is the same over any executor. -/
theorem settled_of_commands_eq_nil {ran : Traced σ α} (h : ran.trace.commands = []) :
    Settled x nesting state ran ran := by
  refine ⟨rfl, rfl, .refl _, ?_, ?_⟩
  · rw [h]
    exact .of_eq (List.append_nil _).symm
  · rw [h]
    rfl

/-- A turn with which a run ends. -/
theorem settled_turnTrace (value : α) {reply : Traced σ Outcome}
    (hreply : (x.apply state script.reader.read.command).complete nesting = reply) :
    Settled x nesting state ⟨value, reply.state, s.turnTrace script reply⟩
      ⟨value, reply.state, s.turnTrace script ⟨reply.value, reply.state, []⟩⟩ := by
  have hnothing : Settled x nesting reply.state (⟨value, reply.state, []⟩ : Traced σ α)
      ⟨value, reply.state, []⟩ := settled_of_commands_eq_nil rfl
  have hlast := settled_after_turnTrace (s := s) hreply hnothing
  simpa only [Traced.after, List.append_nil] using hlast

/-- **A run goes as over the settled executor.** By induction on how it unfolds: each turn comes to
the same outcome and the same state, and so the next one starts alike. -/
theorem Unfolds.settled {ran : Traced σ (Except Escape (Summary π) × Script.Opened)}
    (h : Unfolds x nesting s script commands warnings state ran)
    (nesting' : Nesting π σ) :
    Settled x nesting state ran
      (runFrom (x.settled nesting) nesting' s script commands warnings state) := by
  induction h with
  | exit h =>
    rw [runFrom_of_exit _ _ _ _ h]
    exact settled_of_commands_eq_nil (Trace.commands_map_logged _)
  | comment h hcomment _ ih =>
    rw [runFrom_of_isComment _ _ _ _ h hcomment]
    exact ih.after (commands_noted_append_shown _ _ _)
  | stops h hcomment hreply hstops =>
    subst hreply
    rw [runFrom_of_outcome h hcomment rfl, Executor.complete_apply_settled, if_pos hstops]
    exact settled_turnTrace _ rfl
  | goesOn h hcomment hreply hstops _ ih =>
    subst hreply
    rw [runFrom_of_outcome h hcomment rfl, Executor.complete_apply_settled, hstops,
      if_neg Bool.false_ne_true]
    exact settled_after_turnTrace rfl ih

/-! ### Calls on a session -/

/-- A run of a session. -/
theorem settled_run (x : Executor π σ) (nesting nesting' : Nesting π σ) (s : Session π)
    (state : σ) :
    Settled x nesting state (s.run x nesting state)
      (s.run (x.settled nesting) nesting' state) := by
  cases hstream : s.stream with
  | opened script =>
    rw [run_of_opened x nesting state hstream, run_of_opened _ nesting' state hstream]
    obtain ⟨hvalue, hleft, hsublist, hperm, htold⟩ :=
      (unfolds_runFrom x nesting s script 0 0 state).settled nesting'
    exact ⟨by rw [hvalue], hleft, hsublist, hperm, htold⟩
  | absent | closed script =>
    rw [run, run, hstream]
    exact settled_of_commands_eq_nil rfl

/-- A run, or a pause with a name. -/
theorem settled_runOrPause (x : Executor π σ) (nesting nesting' : Nesting π σ)
    (prompt : Option Text) (s : Session π) (state : σ) :
    Settled x nesting state (s.runOrPause x nesting prompt state)
      (s.runOrPause (x.settled nesting) nesting' prompt state) := by
  have hrun := settled_run x nesting nesting' s state
  cases prompt with
  | none => exact hrun
  | some name =>
    rw [runOrPause, runOrPause, pause_eq, pause_eq, ← hrun.value]
    exact (hrun.before (commands_pauseEnd s name _)).after rfl

end Session

end CommandScript
