import CommandScript.Executor.Shell
import CommandScript.Proofs.Account
import CommandScript.Proofs.Segments

/-!
# Runs over a shell

A shell executor gives a code for a command that ends, and reports the failure of one that cannot
be started. There is a third thing that can come of a command: a null character keeps it from being
launched at all, or what it has written is not UTF-8. Neither is a failure that the executor
reports, so it escapes from the run, which ends there and gives no summary.

`Shell.Gives` says what comes of one command, and a command **answers** when nothing escapes from
it. A run over a shell then gives a summary when all commands that it has handed over answer, and
otherwise it ends with the first that does not (`run_shell_iff_allAnswer`).
-/
namespace CommandScript

variable {π η : Type} {launcher : Launcher η} {nesting : Nesting π (ShellState η)}
  {state : ShellState η} {command : Text}

/-- An outcome from which nothing escapes is a code or a failure that is reported. -/
theorem Outcome.forall_ne_escaped_iff {outcome : Outcome} :
    (∀ e, outcome ≠ .escaped e) ↔
      (∃ code, outcome = .code code) ∨ ∃ reason, outcome = .failed reason := by
  cases outcome <;> simp

namespace Shell

/-- A null character in a command, or in the directory in which it is to run. -/
def NullIn (directory : Option Path) (command : Text) : Prop :=
  '\x00' ∈ command ∨ ∃ path ∈ directory, '\x00' ∈ path.text

/-- What is wrong with the two outputs of a command, of which the first is read first. -/
def IsFaultOf (out err : List UInt8) (f : Text.Utf8.Fault) : Prop :=
  Text.Utf8.IsFault out f ∨ Text.Utf8.IsUtf8 out ∧ Text.Utf8.IsFault err f

/-- What a launcher **gives** for a command, as an outcome of the executor. -/
inductive Gives (launcher : Launcher η) (state : ShellState η) (command : Text) : Outcome → Prop
  /-- A null character keeps the command from being launched. -/
  | embeddedNull (hnull : NullIn state.directory command) :
      Gives launcher state command (.escaped .embeddedNull)
  /-- The command cannot be started, which is reported. -/
  | failed {reason : Text} (hnull : ¬NullIn state.directory command)
      (h : (launcher.launch state.host state.directory command).2 = .notStarted reason) :
      Gives launcher state command (.failed reason)
  /-- The command ends, and what it has written is not UTF-8. -/
  | undecodable {code : Int} {out err : List UInt8} {f : Text.Utf8.Fault}
      (hnull : ¬NullIn state.directory command)
      (h : (launcher.launch state.host state.directory command).2 = .ended code out err)
      (hfault : IsFaultOf out err f) : Gives launcher state command (.escaped (.undecodable f))
  /-- The command ends, and its return code is sorted. -/
  | code {code : Int} {out err : List UInt8} (hnull : ¬NullIn state.directory command)
      (h : (launcher.launch state.host state.directory command).2 = .ended code out err)
      (hout : Text.Utf8.IsUtf8 out) (herr : Text.Utf8.IsUtf8 err) :
      Gives launcher state command (.code (codeOfReturn code))

/-- A command **answers** when no null character keeps it from being launched and what it writes
is UTF-8. -/
structure Answers (launcher : Launcher η) (state : ShellState η) (command : Text) : Prop where
  /-- No null character keeps it from being launched. -/
  not_nullIn : ¬NullIn state.directory command
  /-- What it writes, if it can be started, is UTF-8. -/
  isUtf8 : ∀ code out err,
    (launcher.launch state.host state.directory command).2 = .ended code out err →
      Text.Utf8.IsUtf8 out ∧ Text.Utf8.IsUtf8 err

/-- The state after a command: the host as the launcher leaves it, if the command is launched. -/
def stateAfter (launcher : Launcher η) (state : ShellState η) (command : Text) : ShellState η :=
  if holdsNull state.directory command then state
  else { state with host := (launcher.launch state.host state.directory command).1 }

/-- Whether commands **all answer** that are run one after another. -/
def AllAnswer (launcher : Launcher η) : ShellState η → List Text → Prop
  | _, [] => True
  | state, command :: rest =>
    Answers launcher state command ∧ AllAnswer launcher (stateAfter launcher state command) rest

/-! ### One command -/

theorem IsFaultOf.not_isUtf8 {out err : List UInt8} {f : Text.Utf8.Fault}
    (h : IsFaultOf out err f) : ¬(Text.Utf8.IsUtf8 out ∧ Text.Utf8.IsUtf8 err) := by
  rintro ⟨hout, herr⟩
  rcases h with h | ⟨-, h⟩
  · exact h.not_isUtf8 hout
  · exact h.not_isUtf8 herr

/-- **A command answers when nothing escapes from it**, that is, when a code is given for it or its
failure is reported. -/
theorem Gives.answers_iff {outcome : Outcome} (h : Gives launcher state command outcome) :
    Answers launcher state command ↔ ∀ e, outcome ≠ .escaped e := by
  cases h with
  | embeddedNull hnull => exact ⟨fun h ↦ absurd hnull h.not_nullIn, fun h ↦ absurd rfl (h _)⟩
  | failed hnull hlaunch =>
    refine ⟨fun _ _ ↦ Outcome.noConfusion, fun _ ↦ ⟨hnull, fun _ _ _ hended ↦ ?_⟩⟩
    rw [hlaunch] at hended
    cases hended
  | undecodable hnull hlaunch hfault =>
    exact ⟨fun h ↦ absurd (h.isUtf8 _ _ _ hlaunch) hfault.not_isUtf8, fun h ↦ absurd rfl (h _)⟩
  | code hnull hlaunch hout herr =>
    refine ⟨fun _ _ ↦ Outcome.noConfusion, fun _ ↦ ⟨hnull, fun _ _ _ hended ↦ ?_⟩⟩
    rw [hlaunch] at hended
    cases hended
    exact ⟨hout, herr⟩

theorem holdsNull_eq_true_iff {directory : Option Path} {command : Text} :
    holdsNull directory command = true ↔ NullIn directory command := by
  cases directory <;> simp [holdsNull, NullIn]

theorem isFaultOf_of_report {out err : List UInt8} {f : Text.Utf8.Fault}
    (h : report out err = .error f) : IsFaultOf out err f := by
  rw [report] at h
  cases hout : Text.Utf8.decodeStrict out with
  | error g =>
    simp only [hout] at h
    cases h
    exact .inl (Text.Utf8.isFault_of_decodeStrict hout)
  | ok o =>
    simp only [hout] at h
    cases herr : Text.Utf8.decodeStrict err with
    | error g =>
      simp only [herr] at h
      cases h
      exact .inr ⟨Text.Utf8.exists_decodeStrict_eq_ok_iff.1 ⟨o, hout⟩,
        Text.Utf8.isFault_of_decodeStrict herr⟩
    | ok e =>
      simp only [herr] at h
      cases h

theorem exists_report_eq_ok_iff {out err : List UInt8} :
    (∃ t, report out err = .ok t) ↔ Text.Utf8.IsUtf8 out ∧ Text.Utf8.IsUtf8 err := by
  rw [← Text.Utf8.exists_decodeStrict_eq_ok_iff, ← Text.Utf8.exists_decodeStrict_eq_ok_iff, report]
  cases Text.Utf8.decodeStrict out with
  | error f => simp
  | ok o => cases Text.Utf8.decodeStrict err <;> simp

/-- The outcome of a command that has been launched. -/
def outcomeOf : Launched → Outcome
  | .notStarted reason => .failed reason
  | .ended code out err =>
    match report out err with
    | .error f => .escaped (.undecodable f)
    | .ok _ => .code (codeOfReturn code)

/-- The reply to a launched command comes to its outcome; on the way at most something is logged. -/
theorem complete_replyTo (nesting : Nesting π (ShellState η)) (state : ShellState η)
    (launched : Launched) :
    ∃ records : List Log.Record, (replyTo state launched).complete nesting =
      ⟨outcomeOf launched, state, records.map Event.logged⟩ := by
  cases launched with
  | notStarted reason => exact ⟨[], rfl⟩
  | ended code out err =>
    rw [replyTo, outcomeOf]
    cases report out err with
    | error f => exact ⟨[], rfl⟩
    | ok text =>
      simp only
      split
      · exact ⟨[.plain .info text], rfl⟩
      · exact ⟨[], rfl⟩

theorem gives_outcomeOf {launched : Launched} (hnull : ¬NullIn state.directory command)
    (h : (launcher.launch state.host state.directory command).2 = launched) :
    Gives launcher state command (outcomeOf launched) := by
  cases launched with
  | notStarted reason => exact .failed hnull h
  | ended code out err =>
    rw [outcomeOf]
    cases hreport : report out err with
    | error f => exact .undecodable hnull h (isFaultOf_of_report hreport)
    | ok text =>
      obtain ⟨hout, herr⟩ := exists_report_eq_ok_iff.1 ⟨text, hreport⟩
      exact .code hnull h hout herr

end Shell

namespace Executor

open Shell

/-- A command comes to what the launcher gives for it, and leaves the host as the launcher does. On
the way no script is run. -/
theorem complete_apply_shell (launcher : Launcher η) (nesting : Nesting π (ShellState η))
    (state : ShellState η) (command : Text) :
    ∃ outcome, Gives launcher state command outcome ∧ ∃ records : List Log.Record,
      ((shell launcher).apply state command).complete nesting =
        ⟨outcome, stateAfter launcher state command, records.map Event.logged⟩ := by
  cases hholds : holdsNull state.directory command with
  | true =>
    refine ⟨_, .embeddedNull (holdsNull_eq_true_iff.1 hholds), [], ?_⟩
    simp only [shell, stateAfter, hholds, if_true]
    rfl
  | false =>
    have hnull : ¬NullIn state.directory command := by
      rw [← holdsNull_eq_true_iff, hholds]
      exact Bool.false_ne_true
    refine ⟨_, gives_outcomeOf hnull rfl, ?_⟩
    simp only [shell, stateAfter, hholds, Bool.false_eq_true, if_false]
    exact complete_replyTo nesting _ _

theorem gives_complete_apply_shell (launcher : Launcher η) (nesting : Nesting π (ShellState η))
    (state : ShellState η) (command : Text) :
    Gives launcher state command
      (((shell launcher).apply state command).complete nesting).value := by
  obtain ⟨outcome, hgives, records, h⟩ := complete_apply_shell launcher nesting state command
  rwa [h]

theorem state_complete_apply_shell :
    (((shell launcher).apply state command).complete nesting).state =
      stateAfter launcher state command := by
  obtain ⟨outcome, -, records, h⟩ := complete_apply_shell launcher nesting state command
  rw [h]

theorem commands_complete_apply_shell :
    (((shell launcher).apply state command).complete nesting).trace.commands = [] := by
  obtain ⟨outcome, -, records, h⟩ := complete_apply_shell launcher nesting state command
  rw [h]
  exact Trace.commands_map_logged records

/-- A shell is handed the commands and nothing else. -/
theorem commands_applyAll_shell (state : ShellState η) (commands : List Text) :
    ((shell launcher).applyAll nesting state commands).trace.commands = commands := by
  induction commands generalizing state with
  | nil => rfl
  | cons command commands ih =>
    rw [applyAll, Trace.commands_append, Trace.commands_applied_cons,
      commands_complete_apply_shell, ih, List.singleton_append]

end Executor

namespace Session

open Shell

variable {s : Session π} {commands warnings : ℕ} {handed : List Text}
  {result : Except Escape (Summary π) × Script.Opened}

/-! ### A run -/

/-- A command that does not stop the run answers. -/
theorem answers_of_not_stops
    (h : (((Executor.shell launcher).apply state command).complete nesting).value.stops = false) :
    Answers launcher state command := by
  refine (Executor.gives_complete_apply_shell launcher nesting state command).answers_iff.2 ?_
  intro e he
  rw [he] at h
  cases h

/-- **Where all commands answer that a run hands over, it gives a summary**, and only there. By
induction on the turns. -/
theorem Goes.allAnswer_iff
    (h : Goes (.shell launcher) nesting s commands warnings state handed result) :
    AllAnswer launcher state handed ↔ ∃ summary, result.1 = .ok summary := by
  induction h with
  | exit => exact ⟨fun _ ↦ ⟨_, rfl⟩, fun _ ↦ trivial⟩
  | @stops _ _ state command _ _ =>
    have hgives := Executor.gives_complete_apply_shell launcher nesting state command
    -- only what escapes makes no summary
    simp only [Outcome.exists_map_verdict_eq_ok_iff, AllAnswer, and_true, hgives.answers_iff]
  | goesOn hstops _ ih =>
    rw [Executor.state_complete_apply_shell] at ih
    rw [← ih, AllAnswer]
    exact and_iff_right (answers_of_not_stops hstops)

/-- A run without a summary ends with the first command that does not answer. -/
theorem Goes.of_error
    (h : Goes (.shell launcher) nesting s commands warnings state handed result)
    {e : Escape} (he : result.1 = .error e) :
    ∃ before command, handed = before ++ [command] ∧ AllAnswer launcher state before ∧
      Gives launcher ((Executor.shell launcher).applyAll nesting state before).state command
        (.escaped e) := by
  induction h with
  | exit => cases he
  | @stops _ _ state command _ _ =>
    have hgives := Executor.gives_complete_apply_shell launcher nesting state command
    rw [Outcome.map_verdict_eq_error_iff.1 he] at hgives
    exact ⟨[], command, rfl, trivial, hgives⟩
  | @goesOn _ _ state command _ _ hstops _ ih =>
    -- this command answers, and stands before those of the run that is left
    obtain ⟨before, last, rfl, hall, hgives⟩ := ih he
    rw [Executor.state_complete_apply_shell] at hall
    exact ⟨command :: before, last, rfl, ⟨answers_of_not_stops hstops, hall⟩, hgives⟩

/-- **A run over a shell gives a summary when all commands answer that it hands over**, and only
then. A command answers when it gets a code or its failure is reported, and that is when no null
character keeps it from being launched and what it writes is UTF-8.

What escapes otherwise escapes from the last command that is handed over, and all before it answer.
A summary counts the successes and the failures without a code, after which the run goes on: it
bears no error only when the run has come to the exit command. -/
theorem run_shell_iff_allAnswer (launcher : Launcher η) (nesting : Nesting π (ShellState η))
    (s : Session π) (state : ShellState η) :
    let x : Executor π (ShellState η) := .shell launcher
    let ran := s.run x nesting state
    let handed := ran.trace.commands
    let received := x.applyAll nesting state handed
    (∀ current command,
      ((∃ code, ((x.apply current command).complete nesting).value = .code code) ∨
        ∃ reason, ((x.apply current command).complete nesting).value = .failed reason) ↔
          Answers launcher current command) ∧
      ((∃ summary, ran.value.1 = .ok summary) ↔ AllAnswer launcher state handed) ∧
      (∀ e, ran.value.1 = .error e →
        ∃ before command, handed = before ++ [command] ∧ AllAnswer launcher state before ∧
          Gives launcher (x.applyAll nesting state before).state command (.escaped e)) ∧
      (∀ summary, ran.value.1 = .ok summary →
        summary.commands = received.value.countP Outcome.isSuccess ∧
          summary.warnings = received.value.countP Outcome.isFailure ∧
          (summary.error = none → s.isOpen = true → ∃ last : Script.Opened,
            last.reader.read.command = exitCommand ∧
              ran.value.2 = { s with stream := .opened last.next })) ∧
      ran.state = received.state := by
  intro x ran handed received
  refine ⟨fun current command ↦ ?_, ?_⟩
  · rw [(Executor.gives_complete_apply_shell launcher nesting current command).answers_iff,
      Outcome.forall_ne_escaped_iff]
  by_cases hopen : s.isOpen = true
  · obtain ⟨script, hs⟩ := exists_stream_of_isOpen hopen
    obtain ⟨told, last, hgoes, hplace, hleft, htold⟩ := exists_goes_run x nesting state hs
    have hhanded : handed = told := htold.trans (Executor.commands_applyAll_shell state told)
    rw [← hhanded] at hgoes hleft
    refine ⟨hgoes.allAnswer_iff.symm, fun e he ↦ hgoes.of_error he, fun summary hsummary ↦ ?_,
      hleft⟩
    obtain ⟨-, hcommands, hwarnings⟩ := hgoes.counts hsummary
    refine ⟨hcommands.trans (Nat.zero_add _), hwarnings.trans (Nat.zero_add _), fun herror _ ↦ ?_⟩
    obtain ⟨script, hexit, hnext⟩ := hgoes.exists_exit hsummary herror
    exact ⟨script, hexit, by rw [← hnext]; exact hplace⟩
  · -- without a script nothing is handed over
    have hran : ran = ⟨(.ok ⟨s.previous, 0, 0, none⟩, s), state, []⟩ :=
      run_of_not_isOpen x nesting state (Bool.not_eq_true _ ▸ hopen)
    have hvalue : ran.value.1 = .ok ⟨s.previous, 0, 0, none⟩ := by rw [hran]
    have hhanded : handed = [] := by rw [show handed = ran.trace.commands from rfl, hran]; rfl
    have hreceived : received = ⟨[], state, []⟩ := by
      rw [show received = x.applyAll nesting state handed from rfl, hhanded]
      rfl
    refine ⟨⟨fun _ ↦ by rw [hhanded]; trivial, fun _ ↦ ⟨_, hvalue⟩⟩, fun e he ↦ ?_,
      fun summary hsummary ↦ ?_, by rw [hran, hreceived]⟩
    · rw [hvalue] at he
      cases he
    · rw [hvalue] at hsummary
      cases hsummary
      rw [hreceived]
      exact ⟨rfl, rfl, fun _ h ↦ absurd h hopen⟩

/-- A run that ends with a command that writes a single octet, which begins no character: the run
gives no summary, and the next command of the script is not handed over. -/
theorem run_shell_octet_escapes :
    let launcher : Launcher Unit := ⟨fun _ _ command ↦
      ((), .ended 0 (if command = "printf '\\377'".toList then [0xFF] else []) []), fun _ _ ↦ none⟩
    let nesting : Nesting Unit (ShellState Unit) := fun _ state ↦ ⟨.error .tooDeep, state, []⟩
    let script : Script.Opened := .withReader (.atStart 0 [])
      (.ofText "printf '\\377'\ntrue\n".toList)
    let s : Session Unit := ⟨.ofText "release".toList, (), defaultEchoLevel, .opened script⟩
    let ran := s.run (.shell launcher) nesting ⟨(), 0, none⟩
    ran.value.1 = .error (.undecodable ⟨0, [0xFF], .badStart⟩) ∧
      (∀ summary, ran.value.1 ≠ .ok summary) ∧
      ran.trace.commands = ["printf '\\377'".toList] ∧
      script.reader.commandAt 1 = "true".toList := by
  intro launcher nesting script s ran
  have hfirst : script.reader.read.command = "printf '\\377'".toList := by decide +kernel
  have hdeed : (Executor.shell launcher).dispatch nesting script.reader.read.command ⟨(), 0, none⟩ =
      ⟨.escaped (.undecodable ⟨0, [0xFF], .badStart⟩), ⟨(), 0, none⟩,
        [.applied "printf '\\377'".toList]⟩ := by
    rw [hfirst]
    rfl
  have hran : ran.value.1 = .error (.undecodable ⟨0, [0xFF], .badStart⟩) ∧
      ran.trace.commands = ["printf '\\377'".toList] := by
    rw [show ran = _ from run_of_opened _ nesting _ rfl,
      runFrom_of_dispatch s 0 0 _ (by rw [hfirst]; decide) (by rw [hfirst]; decide)]
    simp only [hdeed]
    rw [Trace.commands_append, Trace.commands_map_logged]
    exact ⟨trivial, rfl⟩
  refine ⟨hran.1, fun summary hsummary ↦ ?_, hran.2, by decide +kernel⟩
  rw [hran.1] at hsummary
  cases hsummary

end Session

end CommandScript
