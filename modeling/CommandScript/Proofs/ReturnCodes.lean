import CommandScript.Proofs.Judgements
import CommandScript.Proofs.Rejections
import CommandScript.Proofs.ShellRuns

/-!
# Return codes

A shell ends a command with a return code, any integer, and the executor answers with a code of its
own. Three return codes have a meaning there, and no other one is taken for one of them: all others
are answered from 300 up to 399, where no code has a meaning (`Shell.sorted`).

Hence a run over a shell stops by the return codes of its commands alone. As long as they start and
write UTF-8 (`Shell.Return`), it stops at the first that does not return zero, and its summary is
without an error when there is none (`Goes.endsByReturn`). Where the script is kept, that is the
first command of the script that fails, if it comes before the exit command
(`exists_endsInScript`).
-/
namespace CommandScript

variable {π η : Type} {launcher : Launcher η} {nesting : Nesting π (ShellState η)}
  {state : ShellState η} {command : Text}

theorem Summary.ok_eq_true_iff {summary : Summary π} :
    summary.ok = true ↔ summary.error = none := by
  rw [Summary.ok, Option.isNone_iff_eq_none]

namespace Shell

/-! ### Sorting a return code -/

/-- How a return code is **sorted**: the code of the executor, and the status of that. -/
structure Sorted (returnCode : Int) : Prop where
  /-- Zero is the return code of a success, and no other. -/
  success_iff : codeOfReturn returnCode = 0 ↔ returnCode = 0
  /-- A command that is not known has one return code. -/
  notFound_iff : codeOfReturn returnCode = 100 ↔ returnCode = 127
  /-- So has a command that cannot be executed. -/
  illegalState_iff : codeOfReturn returnCode = 200 ↔ returnCode = 126
  /-- All others have codes without a meaning. -/
  others : returnCode ≠ 0 → returnCode ≠ 127 → returnCode ≠ 126 →
    300 ≤ codeOfReturn returnCode ∧ codeOfReturn returnCode ≤ 399
  /-- The status tells the four kinds of return codes apart. -/
  kind_eq_succeeded_iff :
    (Status.ofCode (codeOfReturn returnCode)).kind = .succeeded ↔ returnCode = 0
  kind_eq_notFound_iff :
    (Status.ofCode (codeOfReturn returnCode)).kind = .notFound ↔ returnCode = 127
  kind_eq_illegalState_iff :
    (Status.ofCode (codeOfReturn returnCode)).kind = .illegalState ↔ returnCode = 126
  kind_eq_illegalParameter_iff :
    (Status.ofCode (codeOfReturn returnCode)).kind = .illegalParameter ↔
      returnCode ≠ 0 ∧ returnCode ≠ 127 ∧ returnCode ≠ 126
  /-- A parameter that is refused has the return code for its index, counted by hundreds. -/
  index : (Status.ofCode (codeOfReturn returnCode)).kind = .illegalParameter →
    (Status.ofCode (codeOfReturn returnCode)).parameterIndex = some (returnCode % 100)

/-- The four ways to sort a return code. -/
theorem codeOfReturn_cases (returnCode : Int) :
    (returnCode = 0 ∧ codeOfReturn returnCode = 0) ∨
      (returnCode = 127 ∧ codeOfReturn returnCode = 100) ∨
      (returnCode = 126 ∧ codeOfReturn returnCode = 200) ∨
      ((returnCode ≠ 0 ∧ returnCode ≠ 127 ∧ returnCode ≠ 126) ∧
        codeOfReturn returnCode = 300 + returnCode % 100) := by
  rw [codeOfReturn]
  by_cases hzero : returnCode = 0
  · exact .inl ⟨hzero, if_pos hzero⟩
  by_cases hnotFound : returnCode = notFoundReturn
  · exact .inr (.inl ⟨hnotFound, by rw [if_neg hzero, if_pos hnotFound]; rfl⟩)
  by_cases hnotExecutable : returnCode = notExecutableReturn
  · refine .inr (.inr (.inl ⟨hnotExecutable, ?_⟩))
    rw [if_neg hzero, if_neg hnotFound, if_pos hnotExecutable]
    rfl
  · refine .inr (.inr (.inr ⟨⟨hzero, hnotFound, hnotExecutable⟩, ?_⟩))
    rw [if_neg hzero, if_neg hnotFound, if_neg hnotExecutable]
    rfl

/-- A code from 300 up to 399 has the status of a refused parameter. -/
theorem ofCode_of_le {code : Int} (h : 300 ≤ code) :
    Status.ofCode code = ⟨code, .illegalParameter, some (code % 100)⟩ := by
  have hsuccess : code ≠ Status.successCode := by rw [Status.successCode]; omega
  have hnotFound : code ≠ Status.notFoundCode := by rw [Status.notFoundCode]; omega
  have hillegalState : code ≠ Status.illegalStateCode := by rw [Status.illegalStateCode]; omega
  rw [Status.ofCode, if_neg hsuccess, if_neg hnotFound, if_neg hillegalState]
  rfl

/-- **Every return code is sorted**, and none is taken for another. -/
theorem sorted (returnCode : Int) : Sorted returnCode := by
  rcases codeOfReturn_cases returnCode with
    ⟨rfl, hcode⟩ | ⟨rfl, hcode⟩ | ⟨rfl, hcode⟩ | ⟨⟨hzero, hnotFound, hnotExecutable⟩, hcode⟩
  · constructor <;> simp [hcode, Status.ofCode, Status.successCode]
  · constructor <;> simp [hcode, Status.ofCode, Status.successCode, Status.notFoundCode]
  · constructor <;>
      simp [hcode, Status.ofCode, Status.successCode, Status.notFoundCode, Status.illegalStateCode]
  · have hnonneg := Int.emod_nonneg returnCode (show (100 : Int) ≠ 0 by decide)
    have hlt := Int.emod_lt_of_pos returnCode (show (0 : Int) < 100 by decide)
    have hstatus := ofCode_of_le (show 300 ≤ 300 + returnCode % 100 by omega)
    have hindex : (300 + returnCode % 100) % 100 = returnCode % 100 := by omega
    constructor <;> simp [hcode, hstatus, hindex, hzero, hnotFound, hnotExecutable] <;> omega

/-! ### Commands that return -/

/-- The state after commands that are run one after another. -/
def stateAfterAll (launcher : Launcher η) (state : ShellState η) (commands : List Text) :
    ShellState η :=
  commands.foldl (stateAfter launcher) state

/-- Commands that are run one after another all **return**: each starts, writes UTF-8, and ends with
its return code. -/
inductive Return (launcher : Launcher η) : ShellState η → List Text → List Int → Prop
  /-- No command is left. -/
  | nil {state : ShellState η} : Return launcher state [] []
  /-- One command before the others. -/
  | cons {state : ShellState η} {command : Text} {rest : List Text} {returnCode : Int}
      {returnCodes : List Int} {out err : List UInt8} (hnull : ¬NullIn state.directory command)
      (h : (launcher.launch state.host state.directory command).2 = .ended returnCode out err)
      (hout : Text.Utf8.IsUtf8 out) (herr : Text.Utf8.IsUtf8 err)
      (hrest : Return launcher (stateAfter launcher state command) rest returnCodes) :
      Return launcher state (command :: rest) (returnCode :: returnCodes)

/-- The return code of a command, if it starts. -/
def returnCode? (launcher : Launcher η) (state : ShellState η) (command : Text) : Option Int :=
  match (launcher.launch state.host state.directory command).2 with
  | .notStarted _ => none
  | .ended returnCode _ _ => some returnCode

theorem returnCode?_of_ended {returnCode : Int} {out err : List UInt8}
    (h : (launcher.launch state.host state.directory command).2 = .ended returnCode out err) :
    returnCode? launcher state command = some returnCode := by
  rw [returnCode?, h]

/-- A command that returns is answered by its return code. -/
theorem value_complete_of_ended {returnCode : Int} {out err : List UInt8}
    (hnull : ¬NullIn state.directory command)
    (h : (launcher.launch state.host state.directory command).2 = .ended returnCode out err)
    (hout : Text.Utf8.IsUtf8 out) (herr : Text.Utf8.IsUtf8 err) :
    (((Executor.shell launcher).apply state command).complete nesting).value =
      .code (codeOfReturn returnCode) := by
  have hgives := Executor.gives_complete_apply_shell launcher nesting state command
  generalize (((Executor.shell launcher).apply state command).complete nesting).value = outcome
    at hgives ⊢
  cases hgives with
  | embeddedNull hnull' => exact absurd hnull' hnull
  | failed _ h' =>
    rw [h] at h'
    cases h'
  | undecodable _ h' hfault =>
    rw [h] at h'
    cases h'
    exact absurd ⟨hout, herr⟩ hfault.not_isUtf8
  | code _ h' =>
    rw [h] at h'
    cases h'
    rfl

/-- A return code stops a run when it is not zero. -/
theorem stops_code_codeOfReturn (returnCode : Int) :
    (Outcome.code (codeOfReturn returnCode)).stops = decide (returnCode ≠ 0) :=
  decide_eq_decide.2 (not_congr (sorted returnCode).success_iff)

/-- Where commands return, so does each of them. -/
theorem Return.exists_of_append (nesting : Nesting π (ShellState η)) {before rest : List Text}
    {returnCodes : List Int}
    (h : Return launcher state (before ++ command :: rest) returnCodes) :
    ∃ returnCode,
      returnCode? launcher (stateAfterAll launcher state before) command = some returnCode ∧
        (((Executor.shell launcher).apply (stateAfterAll launcher state before) command).complete
          nesting).value = .code (codeOfReturn returnCode) := by
  induction before generalizing state returnCodes with
  | nil =>
    cases h with
    | cons hnull hended hout herr _ =>
      exact ⟨_, returnCode?_of_ended hended, value_complete_of_ended hnull hended hout herr⟩
  | cons first before ih =>
    cases h with
    | cons _ _ _ _ hrest => exact ih hrest

end Shell

theorem Executor.state_applyAll_shell (nesting : Nesting π (ShellState η))
    (state : ShellState η) (commands : List Text) :
    ((shell launcher).applyAll nesting state commands).state =
      Shell.stateAfterAll launcher state commands := by
  induction commands generalizing state with
  | nil => rfl
  | cons command commands ih =>
    rw [applyAll, Executor.state_complete_apply_shell, ih, Shell.stateAfterAll,
      Shell.stateAfterAll, List.foldl_cons]

namespace Session

open Shell

variable {s : Session π} {commands warnings n : ℕ} {handed : List Text} {r : Reader}
  {result : Except Escape (Summary π) × Script.Opened} {returnCodes : List Int}

/-! ### Runs over commands that return -/

/-- How a run over a shell **ends** by the return codes of the commands that it has handed over. -/
structure EndsByReturn (returnCodes : List Int) (result : Except Escape (Summary π)) : Prop where
  /-- No return code but the last is other than zero. -/
  before : ∀ returnCode ∈ returnCodes.dropLast, returnCode = 0
  /-- The run comes to a summary. -/
  summary : ∃ summary, result = .ok summary
  /-- The summary is without an error when there is no return code but zero. -/
  ok_iff : ∀ summary, result = .ok summary →
    (summary.ok = true ↔ ∀ returnCode ∈ returnCodes, returnCode = 0)

/-- One more success before the others. -/
theorem EndsByReturn.cons {result : Except Escape (Summary π)}
    (h : EndsByReturn returnCodes result) : EndsByReturn (0 :: returnCodes) result := by
  refine ⟨fun returnCode hmem ↦ ?_, h.summary, fun summary hsummary ↦ ?_⟩
  · cases returnCodes with
    | nil => simp at hmem
    | cons first others =>
      rcases List.mem_cons.1 hmem with rfl | hmem
      · rfl
      · exact h.before returnCode hmem
  · rw [h.ok_iff summary hsummary]
    simp

/-- **A run over commands that return ends by their return codes.** By induction on the commands: a
return code of zero is a success, and any other one stops the run by a rejection. -/
theorem Goes.endsByReturn
    (h : Goes (.shell launcher) nesting s commands warnings state handed result)
    (hreturn : Return launcher state handed returnCodes) :
    EndsByReturn returnCodes result.1 := by
  induction h generalizing returnCodes with
  | exit =>
    cases hreturn
    refine ⟨by simp, ⟨_, rfl⟩, fun summary hsummary ↦ ?_⟩
    cases hsummary
    simp [Summary.ok]
  | stops =>
    cases hreturn with
    | @cons _ _ _ returnCode _ _ _ hnull hended hout herr hrest =>
      cases hrest
      rw [value_complete_of_ended hnull hended hout herr]
      refine ⟨by simp, ⟨_, rfl⟩, fun summary hsummary ↦ ?_⟩
      cases hsummary
      rw [Summary.ok_eq_true_iff, Status.rejection?_ofCode_eq_none_iff, List.forall_mem_singleton]
      exact (sorted returnCode).success_iff
  | goesOn hstops _ ih =>
    cases hreturn with
    | cons hnull hended hout herr hrest =>
      rw [value_complete_of_ended hnull hended hout herr, stops_code_codeOfReturn] at hstops
      obtain rfl := not_not.1 (of_decide_eq_false hstops)
      rw [Executor.state_complete_apply_shell] at ih
      exact (ih hrest).cons

/-! ### Scripts that are kept -/

/-- Whether the command of a script with an index is handed over and does not return zero, after
those before it have been handed over. -/
def FailsAt (launcher : Launcher η) (r : Reader) (state : ShellState η) (n : ℕ) : Prop :=
  isDispatched (r.commandAt n) = true ∧
    returnCode? launcher (stateAfterAll launcher state (dispatched r n)) (r.commandAt n) ≠ some 0

/-- The commands that are handed over up to one of them, and after it. -/
theorem dispatched_add_succ_of_isDispatched {k : ℕ} (m : ℕ)
    (h : isDispatched (r.commandAt k) = true) :
    ∃ rest, dispatched r (k + (m + 1)) = dispatched r k ++ r.commandAt k :: rest := by
  refine ⟨dispatched (r.after k).read.reader m, ?_⟩
  rw [dispatched, Reader.commands_add, List.filter_append, ← dispatched, ← dispatched,
    dispatched_succ (r.after k), if_pos (show isDispatched (r.after k).read.command = true from h)]
  rfl

/-- Where commands return, a run stops at one of them by its return code. -/
theorem stopsAt_shell_iff (nesting : Nesting π (ShellState η)) {k : ℕ}
    (hreturn : Return launcher state (dispatched r (n + 1)) returnCodes) (hle : k ≤ n) :
    StopsAt (.shell launcher) nesting r state k ↔
      r.commandAt k = exitCommand ∨ FailsAt launcher r state k := by
  by_cases hexit : r.commandAt k = exitCommand
  · exact iff_of_true (.inl hexit) (.inl hexit)
  rw [StopsAt, FailsAt, isDispatched_eq_true_iff, and_iff_right hexit]
  refine or_congr_right (and_congr_right fun hcomment ↦ ?_)
  obtain ⟨m, rfl⟩ := Nat.exists_eq_add_of_le hle
  obtain ⟨rest, hrest⟩ := dispatched_add_succ_of_isDispatched m
    ((isDispatched_eq_true_iff _).2 ⟨hexit, hcomment⟩)
  rw [Nat.add_assoc, hrest] at hreturn
  obtain ⟨returnCode, hcode, hvalue⟩ := hreturn.exists_of_append nesting
  rw [outcomeAt, Executor.state_applyAll_shell, hvalue, hcode, stops_code_codeOfReturn,
    decide_eq_true_iff, ne_eq, ne_eq, Option.some.injEq]

/-- How a run over a shell ends in a script that is kept: at the command with an index. -/
structure EndsInScript (launcher : Launcher η) (s : Session π) (script : Script.Opened)
    (state : ShellState η)
    (ran : Traced (ShellState η) (Except Escape (Summary π) × Session π)) (n : ℕ) : Prop where
  /-- That is the exit command, or it fails. -/
  stops : script.reader.commandAt n = exitCommand ∨ FailsAt launcher script.reader state n
  /-- No command before it is the exit command or fails. -/
  before : ∀ k < n, script.reader.commandAt k ≠ exitCommand ∧
    ¬FailsAt launcher script.reader state k
  /-- The commands up to it have been handed over, and no other. -/
  handed : ran.trace.commands = dispatched script.reader (n + 1)
  /-- The script stands right after it. -/
  place : ran.value.2 =
    { s with stream := .opened (script.withReader (script.reader.after (n + 1))) }
  /-- There is a summary, and no error in it when no command fails before the exit command. -/
  summary : ∃ summary, ran.value.1 = .ok summary ∧
    ∀ k, script.reader.ExitsFirst k →
      (summary.ok = true ↔ ∀ i < k, ¬FailsAt launcher script.reader state i)

/-- **A run over commands that return ends at the first that fails**, where its script is kept. -/
theorem exists_endsInScript {script : Script.Opened} (hs : s.stream = .opened script)
    (hx : (Executor.shell launcher).Keeps nesting script state)
    (hreturn : Return launcher state (s.run (.shell launcher) nesting state).trace.commands
      returnCodes)
    (hends : EndsByReturn returnCodes (s.run (.shell launcher) nesting state).value.1) :
    ∃ n, EndsInScript launcher s script state (s.run (.shell launcher) nesting state) n := by
  obtain ⟨n, hcourse⟩ := exists_course hx s 0 0
  have hrun := run_of_opened (Executor.shell launcher) nesting state hs
  have hhanded : (s.run (.shell launcher) nesting state).trace.commands =
      dispatched script.reader (n + 1) := by
    rw [hrun, hcourse.handed, Executor.commands_applyAll_shell]
  rw [hhanded] at hreturn
  have hfirst (k : ℕ) (hle : k ≤ n) := stopsAt_shell_iff nesting hreturn hle
  have hbefore (k : ℕ) (hlt : k < n) : script.reader.commandAt k ≠ exitCommand ∧
      ¬FailsAt launcher script.reader state k :=
    not_or.1 ((hfirst k hlt.le).not.1 (hcourse.stops.2 k hlt))
  obtain ⟨summary, hsummary⟩ := hends.summary
  have hok : summary.ok = true ↔ script.reader.commandAt n = exitCommand := by
    rw [Summary.ok_eq_true_iff]
    refine (hcourse.stops.of_summaryAt (s := s) ?_).1
    rw [← hcourse.result_eq_summaryAt, ← hsummary, hrun]
  refine ⟨n, (hfirst n le_rfl).1 hcourse.stops.1, hbefore, hhanded, by rw [hrun, hcourse.place],
    summary, hsummary, fun k hexits ↦ hok.trans ⟨fun hexit i hlt ↦ ?_, fun hnone ↦ ?_⟩⟩
  · -- the exit command that the run has come to is the first one
    obtain rfl : n = k := Reader.ExitsFirst.eq ⟨hexit, fun k hk ↦ (hbefore k hk).1⟩ hexits
    exact (hbefore i hlt).2
  · have hle := hcourse.stops.le_of_exitsFirst hexits
    rcases hle.eq_or_lt with rfl | hlt
    · exact hexits.1
    · exact ((hfirst n le_rfl).1 hcourse.stops.1).resolve_right (hnone n hlt)

/-- **Return codes are never misread.** Zero is the return code of a success, two others are those
of a command that is not known and of one that cannot be executed, and every other one refuses a
parameter, with the return code for its index, counted by hundreds.

A run over a shell whose commands all return stops at the first that does not return zero, and its
summary is without an error when there is none; then the run has come to the exit command. Where the
script is kept, that is the first such command of the script, if it comes before the exit
command. -/
theorem run_shell_endsByReturn (launcher : Launcher η) (nesting : Nesting π (ShellState η))
    (s : Session π) (state : ShellState η) :
    let x : Executor π (ShellState η) := .shell launcher
    let ran := s.run x nesting state
    (∀ returnCode, Shell.Sorted returnCode) ∧
      ∀ returnCodes, Return launcher state ran.trace.commands returnCodes →
        EndsByReturn returnCodes ran.value.1 ∧
          (∀ summary, ran.value.1 = .ok summary → summary.ok = true → s.isOpen = true →
            ∃ last : Script.Opened, last.reader.read.command = exitCommand ∧
              ran.value.2 = { s with stream := .opened last.next }) ∧
          ∀ script, s.stream = .opened script → x.Keeps nesting script state →
            ∃ n, EndsInScript launcher s script state ran n := by
  intro x ran
  refine ⟨Shell.sorted, fun returnCodes hreturn ↦ ?_⟩
  by_cases hopen : s.isOpen = true
  · obtain ⟨script, hs⟩ := exists_stream_of_isOpen hopen
    obtain ⟨handed, last, hgoes, hplace, -, htold⟩ := exists_goes_run x nesting state hs
    have hhanded : ran.trace.commands = handed :=
      htold.trans (Executor.commands_applyAll_shell state handed)
    have hends : EndsByReturn returnCodes ran.value.1 :=
      hgoes.endsByReturn (hhanded ▸ hreturn)
    refine ⟨hends, fun summary hsummary hok _ ↦ ?_,
      fun script hs hx ↦ exists_endsInScript hs hx hreturn hends⟩
    obtain ⟨script, hexit, hnext⟩ := hgoes.exists_exit hsummary (Summary.ok_eq_true_iff.1 hok)
    exact ⟨script, hexit, by rw [← hnext]; exact hplace⟩
  · -- without a script nothing is handed over
    have hran : ran = ⟨(.ok ⟨s.previous, 0, 0, none⟩, s), state, []⟩ :=
      run_of_not_isOpen x nesting state (Bool.not_eq_true _ ▸ hopen)
    rw [hran] at hreturn ⊢
    cases hreturn
    refine ⟨⟨by simp, ⟨_, rfl⟩, fun summary hsummary ↦ ?_⟩,
      fun summary _ _ h ↦ absurd h hopen, fun script hs ↦ absurd (by rw [isOpen, hs]) hopen⟩
    cases hsummary
    simp [Summary.ok]

/-- A run whose second command returns a code that differs by a hundred from that of a command that
is not known: the parameter is refused, with 27 for its index, and the last command is not handed
over. -/
theorem run_shell_endsByReturn_nearMiss :
    let launcher : Launcher Unit := ⟨fun _ _ command ↦
      ((), .ended (if command = "ship it".toList then 227 else 0) [] []), fun _ _ ↦ none⟩
    let x : Executor Unit (ShellState Unit) := .shell launcher
    let nesting : Nesting Unit (ShellState Unit) := fun _ state ↦ ⟨.error .tooDeep, state, []⟩
    let script : Script.Opened := .withReader (.atStart 0 [])
      (.ofText "build
ship it
tidy
".toList)
    let s : Session Unit := ⟨.ofText "release".toList, (), defaultEchoLevel, .opened script⟩
    let state : ShellState Unit := ⟨(), 0, none⟩
    let ran := s.run x nesting state
    Return launcher state ran.trace.commands [0, 227] ∧
      s.stream = .opened script ∧ x.Keeps nesting script state ∧
      EndsByReturn [0, 227] ran.value.1 ∧
      (Status.ofCode (codeOfReturn 227)).parameterIndex = some 27 ∧
      ∃ n, EndsInScript launcher s script state ran n := by
  intro launcher x nesting script s state ran
  have hkeeps : x.Keeps nesting script state :=
    Executor.keeps_of_octets?_eq_none (fun _ _ ↦ rfl) nesting script state
  have hhanded : ran.trace.commands = ["build".toList, "ship it".toList] := by
    obtain ⟨n, hcourse⟩ := exists_course hkeeps s 0 0
    have hstops : StopsFirst x nesting script.reader state 1 := by
      unfold StopsFirst StopsAt
      decide +kernel
    obtain rfl := hcourse.stops.eq hstops
    rw [show ran = _ from run_of_opened x nesting state rfl, hcourse.handed,
      Executor.commands_applyAll_shell]
    decide +kernel
  have hreturn : Return launcher state ran.trace.commands [0, 227] := by
    rw [hhanded]
    have hempty : Text.Utf8.IsUtf8 [] := ⟨[], rfl⟩
    have hnull {left : ShellState Unit} {command : Text}
        (h : holdsNull left.directory command = false) : ¬NullIn left.directory command := by
      rw [← holdsNull_eq_true_iff, h]
      exact Bool.false_ne_true
    exact .cons (hnull (by decide)) rfl hempty hempty
      (.cons (hnull (by decide)) rfl hempty hempty .nil)
  obtain ⟨hsorted, hruns⟩ := run_shell_endsByReturn launcher nesting s state
  obtain ⟨hends, -, hkept⟩ := hruns [0, 227] hreturn
  refine ⟨hreturn, rfl, hkeeps, hends, (hsorted 227).index ?_, hkept script rfl hkeeps⟩
  exact (hsorted 227).kind_eq_illegalParameter_iff.2 (by decide)

end Session

end CommandScript
