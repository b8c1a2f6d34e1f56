import CommandScript.Proofs.EchoRuns
import CommandScript.Proofs.NestedRuns

/-!
# Runs that end with a rejection

As long as nothing escapes from the commands of a session, only a rejection stops its run: a code
that is not that of a success. The error in its summary is the rejection of the last command that
the session has handed over, and no command before that one is rejected
(`Started.Undisturbed.exists_rejected`). Where the script is kept, there is an error when a command
before the first exit command is rejected (`Started.Undisturbed.error_ne_none_iff`).

What has been handed over in all, and the state in which the executor is left, follow from the
commands of the session alone (`Started.commands_trace_ran`, `Started.state_ran`).
-/
namespace CommandScript

variable {π σ : Type}

/-! ### Rejected commands -/

/-- Whether an outcome **rejects** its command: it is a code, and not that of a success. -/
def Outcome.isRejection : Outcome → Bool
  | .code n => n ≠ Status.successCode
  | _ => false

/-- Where nothing escapes, only a rejection stops a run. -/
theorem Outcome.stops_eq_isRejection {outcome : Outcome} (h : ∀ e, outcome ≠ .escaped e) :
    outcome.stops = outcome.isRejection := by
  cases outcome with
  | escaped e => exact absurd rfl (h e)
  | _ => rfl

theorem Outcome.stops_of_isRejection {outcome : Outcome} (h : outcome.isRejection = true) :
    outcome.stops = true := by
  cases outcome with
  | code n => exact h
  | failed reason => cases h
  | escaped e => cases h

/-- A summary bears an error when one of the outcomes that it counts stops the run. -/
theorem Summary.Counts.error_ne_none_iff {summary : Summary π} {outcomes : List Outcome}
    (h : summary.Counts outcomes) :
    summary.error ≠ none ↔ ∃ outcome ∈ outcomes, outcome.stops = true := by
  have hpos : (∃ outcome ∈ outcomes, outcome.stops = true) ↔ 0 < outcomes.countP Outcome.stops :=
    List.countP_pos_iff.symm
  rw [hpos, h.stops]
  split <;> simp [*]

theorem Status.code_ne_of_rejection? {code : Int} {command : Text} {rejection : Rejection}
    (h : (ofCode code).rejection? command = some rejection) : code ≠ successCode := by
  rintro rfl
  cases h

/-! ### Where a run stops -/

namespace Session

variable {x : Executor π σ} {nesting : Nesting π σ} {r : Reader} {state : σ} {n : ℕ}

theorem dispatched_concat (r : Reader) (n : ℕ) :
    dispatched r (n + 1) =
      dispatched r n ++ if isDispatched (r.commandAt n) then [r.commandAt n] else [] := by
  rw [dispatched, Reader.commands_add, List.filter_append, Reader.commands_succ,
    Reader.commands_zero, List.filter_cons, List.filter_nil]
  rfl

/-- A run stops behind no exit command. -/
theorem StopsFirst.le_of_exitsFirst {k : ℕ} (h : StopsFirst x nesting r state n)
    (hexits : r.ExitsFirst k) : n ≤ k := by
  by_contra hlt
  exact h.2 k (Nat.lt_of_not_le hlt) (.inl hexits.1)

/-- A pause leaves the executor as a run does. -/
theorem state_runOrPause (x : Executor π σ) (nesting : Nesting π σ) (prompt : Option Text)
    (s : Session π) (state : σ) :
    (s.runOrPause x nesting prompt state).state = (s.run x nesting state).state := by
  cases prompt <;> rfl

/-- A run that stops at another command than the exit command has handed that command over last. -/
theorem StopsFirst.dispatched_eq (h : StopsFirst x nesting r state n)
    (hexit : r.commandAt n ≠ exitCommand) :
    dispatched r (n + 1) = dispatched r n ++ [r.commandAt n] := by
  have hcomment := (h.1.resolve_left hexit).1
  rw [dispatched_concat, if_pos ((isDispatched_eq_true_iff _).2 ⟨hexit, hcomment⟩)]

end Session

namespace Started

open Session

variable {x : Executor π σ} {files : FileStore} {m : Started π σ} {summary : Summary π}

/-- The error of an undisturbed run is the rejection of the last command that its session has handed
over, and nothing before that has stopped the run. -/
theorem Undisturbed.exists_rejected (h : m.Undisturbed x files summary) {rejection : Rejection}
    (herror : summary.error = some rejection) :
    ∃ before command code, m.handed x files = before ++ [command] ∧
      (∀ outcome ∈ (x.applyAll (nesting x files m.depth) m.state before).value,
        outcome.stops = false) ∧
      ((x.apply (x.applyAll (nesting x files m.depth) m.state before).state
        command).complete (nesting x files m.depth)).value = .code code ∧
      (Status.ofCode code).rejection? command = some rejection := by
  -- the session comes to the same alone, where all that is handed over are its own commands
  have hvalue : (m.session.run (x.settled (nesting x files m.depth))
      (nesting x files 0) m.state).value.1 = .ok summary := by
    rw [← h.result, h.value, alone, value_runOrPause]
  rw [handed_eq]
  by_cases hopen : m.session.isOpen = true
  · obtain ⟨script, hscript⟩ := exists_stream_of_isOpen hopen
    obtain ⟨last, hgoes⟩ := exists_goes_run_settled x (nesting x files m.depth)
      (nesting x files 0) m.state hscript
    obtain ⟨before, command, code, hhanded, hbefore, hcode, hrejection⟩ :=
      hgoes.of_rejection hvalue herror
    obtain ⟨houtcomes, hstate⟩ := x.applyAll_settled (nesting x files m.depth)
      (nesting x files 0) m.state before
    rw [houtcomes] at hbefore
    rw [hstate, Executor.complete_apply_settled] at hcode
    exact ⟨before, command, code, hhanded, hbefore, hcode, hrejection⟩
  · rw [run_of_not_isOpen _ _ _ (Bool.not_eq_true _ ▸ hopen)] at hvalue
    cases hvalue
    cases herror

/-- **An undisturbed run bears an error when a command is rejected before the first exit command**,
if its script is kept. -/
theorem Undisturbed.error_ne_none_iff (h : m.Undisturbed x files summary) {script : Script.Opened}
    (hscript : m.session.stream = .opened script)
    (hkeeps : x.Keeps (nesting x files m.depth) script m.state) {k : ℕ}
    (hexits : script.reader.ExitsFirst k) :
    summary.error ≠ none ↔
      ∃ i < k, isComment (script.reader.commandAt i) = false ∧
        (outcomeAt x (nesting x files m.depth) script.reader m.state i).isRejection = true := by
  obtain ⟨n, hstops, hhanded, -⟩ := h.place script hscript hkeeps
  have hexit : summary.error = none ↔ script.reader.commandAt n = exitCommand := by
    have hcount := h.counts.stops
    rw [outcomes, hhanded, hstops.countP_stops] at hcount
    split at hcount <;> split at hcount <;> simp_all
  constructor
  · intro herror
    obtain ⟨rejection, hsome⟩ := Option.ne_none_iff_exists'.1 herror
    obtain ⟨before, command, code, hlast, -, hcode, hrejection⟩ := h.exists_rejected hsome
    have hne := mt hexit.2 herror
    have hlt : n < k := (hstops.le_of_exitsFirst hexits).lt_of_ne fun heq ↦ hne (heq ▸ hexits.1)
    -- the last command that is handed over is the one at which the run stops
    rw [hhanded, hstops.dispatched_eq hne] at hlast
    obtain ⟨rfl, hcommand⟩ := List.append_inj' hlast rfl
    obtain rfl := List.singleton_inj.1 hcommand
    refine ⟨n, hlt, (hstops.1.resolve_left hne).1, ?_⟩
    rw [outcomeAt, hcode]
    exact decide_eq_true (Status.code_ne_of_rejection? hrejection)
  · rintro ⟨i, hlt, hcomment, hrejection⟩ hnone
    -- the run stops there at the latest, and so before the exit command
    have hstop : StopsAt x (nesting x files m.depth) script.reader m.state i :=
      .inr ⟨hcomment, Outcome.stops_of_isRejection hrejection⟩
    have hle : n ≤ i := by
      by_contra hgt
      exact hstops.2 i (Nat.lt_of_not_le hgt) hstop
    exact hexits.2 n (hle.trans_lt hlt) (hexit.1 hnone)

/-- A run leaves the executor as the commands do that its session has handed over. -/
theorem state_ran (x : Executor π σ) (files : FileStore) (m : Started π σ) :
    (m.ran x files).state =
      (x.applyAll (nesting x files m.depth) m.state (m.handed x files)).state := by
  have hleft := (settled_runOrPause x (nesting x files m.depth) (nesting x files 0) m.prompt
    m.session m.state).left
  rw [ran, hleft, state_runOrPause, handed_eq]
  by_cases hopen : m.session.isOpen = true
  · obtain ⟨script, hscript⟩ := exists_stream_of_isOpen hopen
    obtain ⟨handed, last, -, -, hstate, htold⟩ := exists_goes_run
      (x.settled (nesting x files m.depth)) (nesting x files 0) m.state hscript
    rw [Executor.commands_applyAll_settled] at htold
    rw [hstate, htold, (x.applyAll_settled _ _ _ _).2]
  · rw [run_of_not_isOpen _ _ _ (Bool.not_eq_true _ ▸ hopen)]
    rfl

/-- The commands of a run are those that its session hands over, each with those of its reply. -/
theorem commands_trace_ran (x : Executor π σ) (files : FileStore) (m : Started π σ) :
    (m.ran x files).trace.commands =
      (x.applyAll (nesting x files m.depth) m.state (m.handed x files)).trace.commands :=
  (settled_runOrPause x (nesting x files m.depth) (nesting x files 0) m.prompt m.session
    m.state).told

end Started

end CommandScript
