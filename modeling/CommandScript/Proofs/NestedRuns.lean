import CommandScript.Proofs.Reports
import Mathlib.Algebra.GroupWithZero.Nat
import Mathlib.Data.List.Perm.Basic

/-!
# Runs within runs

Before it answers, an executor may have other scripts run, by itself and within its own replies, and
so the runs of a session and of all that is run within it form a tree. `Started.runs` lists that
tree. Every run in it is the run that its session would make **alone**, over the settled executor,
with the runs within its replies put in between: what all of them do is, up to order, what each of
them does by itself (`Started.perm_runsWithin`). The proof is by induction on the depth to which
scripts may run each other, one level of the tree (`Started.perm_ran`) at a time.

Nothing is assumed about the scripts that are run, which may be that of the outer session again, nor
about how often an executor asks for them.
-/
namespace CommandScript

variable {π σ : Type}

theorem Trace.commands_flatMap {ι : Type} (l : List ι) (f : ι → Trace) :
    commands (l.flatMap f) = l.flatMap fun i ↦ (f i).commands :=
  List.filterMap_flatMap

theorem Trace.commands_perm {before after : Trace} (h : before.Perm after) :
    before.commands.Perm after.commands := h.filterMap _

/-! ### Within one reply -/

namespace Reply

variable (nesting : Nesting π σ)

/-- What a reply itself logs and prints: its **remarks**. -/
def remarks : Reply π σ → Trace
  | .answer _ _ => []
  | .log level message rest => .logged (.plain level message) :: rest.remarks
  | .print text rest => .printed .listing text :: rest.remarks
  | .nest state request resume =>
    (resume (nesting request state).state (nesting request state).value).remarks

/-- What a reply asks to be run, each request with the state in which it is made. -/
def requests : Reply π σ → List (Request π × σ)
  | .answer _ _ => []
  | .log _ _ rest => rest.requests
  | .print _ rest => rest.requests
  | .nest state request resume =>
    (request, state) ::
      (resume (nesting request state).state (nesting request state).value).requests

/-- What is done within a reply: its remarks, and what is done for its requests. -/
theorem perm_trace_complete (reply : Reply π σ) :
    (reply.complete nesting).trace.Perm
      (reply.remarks nesting ++
        (reply.requests nesting).flatMap fun asked ↦ (nesting asked.1 asked.2).trace) := by
  induction reply with
  | answer state outcome => exact .refl _
  | log level message rest ih => exact ih.cons _
  | print text rest ih => exact ih.cons _
  | nest state request resume ih =>
    rw [complete, remarks, requests, List.flatMap_cons]
    refine ((ih _ _).append_left _).trans ?_
    exact List.perm_append_comm_assoc _ _ _

theorem commands_remarks (reply : Reply π σ) : (reply.remarks nesting).commands = [] := by
  induction reply with
  | answer state outcome => rfl
  | log level message rest ih => exact ih
  | print text rest ih => exact ih
  | nest state request resume ih => exact ih _ _

/-- An executor signs nothing. -/
theorem signed_remarks (reply : Reply π σ) : (reply.remarks nesting).signed = [] := by
  induction reply with
  | answer state outcome => rfl
  | log level message rest ih => exact ih
  | print text rest ih => exact ih
  | nest state request resume ih => exact ih _ _

end Reply

/-- What is done within replies: their remarks, and what is done for their requests. -/
theorem Executor.perm_replyTrace (x : Executor π σ) (nesting : Nesting π σ) (state : σ)
    (commands : List Text) :
    (x.replyTrace nesting state commands).Perm
      ((x.replies nesting state commands).flatMap (Reply.remarks nesting) ++
        ((x.replies nesting state commands).flatMap (Reply.requests nesting)).flatMap
          fun asked ↦ (nesting asked.1 asked.2).trace) := by
  rw [replyTrace, List.flatMap_assoc]
  refine (List.Perm.flatMap_left _ fun reply _ ↦ reply.perm_trace_complete nesting).trans ?_
  exact (List.flatMap_append_perm _ _ _).symm

/-! ### The tree of runs -/

/-- A run that is **started**. -/
structure Started (π σ : Type) where
  /-- What was logged when the session was opened. -/
  opening : List Log.Record
  /-- The session. -/
  session : Session π
  /-- The name of the pause, if the session runs as one. -/
  prompt : Option Text
  /-- How deep scripts may run each other within this run. -/
  depth : ℕ
  /-- The state of the executor. -/
  state : σ

namespace Started

variable (x : Executor π σ) (files : FileStore) (m : Started π σ)

/-- What the run comes to. -/
def ran : Traced σ (Except Escape (Summary π) × Session π) :=
  m.session.runOrPause x (Session.nesting x files m.depth) m.prompt m.state

/-- The run that the session makes **alone**: each command has its answer at once, and no script is
run in between. -/
def alone : Traced σ (Except Escape (Summary π) × Session π) :=
  m.session.runOrPause (x.settled (Session.nesting x files m.depth)) (Session.nesting x files 0)
    m.prompt m.state

/-- The commands that the session itself hands over. -/
def handed : List Text := (m.alone x files).trace.commands

/-- The replies to the commands that the session itself hands over. -/
def replies : List (Reply π σ) :=
  x.replies (Session.nesting x files m.depth) m.state (m.handed x files)

/-- The outcomes of the commands that the session itself hands over. -/
def outcomes : List Outcome :=
  (x.applyAll (Session.nesting x files m.depth) m.state (m.handed x files)).value

/-- What is done in the run apart from the runs within it. -/
def events : Trace :=
  m.opening.map Event.logged ++ (m.alone x files).trace ++
    (m.replies x files).flatMap (Reply.remarks (Session.nesting x files m.depth))

/-- The run that a request starts in a state; nothing is started when the session is not opened. -/
def ofRequest? (depth : ℕ) (request : Request π) (state : σ) : Option (Started π σ) :=
  match Session.openScript files request.path request.previous request.echoLevel
    request.strict with
  | .error _ => none
  | .ok (s, records) => some ⟨records, s, request.prompt, depth, state⟩

/-- The runs that requests start, when scripts may run each other down to a depth. -/
def ofRequests : ℕ → List (Request π × σ) → List (Started π σ)
  | 0, _ => []
  | depth + 1, requests =>
    requests.flatMap fun asked ↦ (ofRequest? files depth asked.1 asked.2).toList

/-- The runs that are started within the replies to the commands of a run. -/
def inner : List (Started π σ) :=
  ofRequests files m.depth
    ((m.replies x files).flatMap (Reply.requests (Session.nesting x files m.depth)))

/-- A run and the runs within it, down to a number of levels. -/
def runsWithin : ℕ → Started π σ → List (Started π σ)
  | 0, m => [m]
  | n + 1, m => m :: (m.inner x files).flatMap (runsWithin n)

/-- A run and all runs within it. -/
def runs : List (Started π σ) := runsWithin x files m.depth m

/-- How many commands a run accounts for by its summary. -/
def accounted : ℕ :=
  match (m.ran x files).value.1 with
  | .ok summary => summary.accounted
  | .error _ => 0

variable {x files m}

/-- What is done for a request is the run that it starts, if it starts one. -/
theorem trace_nesting_succ (depth : ℕ) (request : Request π) (state : σ) :
    (Session.nesting x files (depth + 1) request state).trace =
      (ofRequest? files depth request state).toList.flatMap
        fun m ↦ m.opening.map Event.logged ++ (m.ran x files).trace := by
  simp only [Session.nesting, ofRequest?]
  cases Session.openScript files request.path request.previous request.echoLevel
    request.strict with
  | error e => rfl
  | ok opened => simp [ran]

/-- What is done for requests are the runs that they start. -/
theorem flatMap_trace_nesting (depth : ℕ) (requests : List (Request π × σ)) :
    requests.flatMap (fun asked ↦ (Session.nesting x files depth asked.1 asked.2).trace) =
      (ofRequests files depth requests).flatMap
        fun m ↦ m.opening.map Event.logged ++ (m.ran x files).trace := by
  cases depth with
  | zero => simp [ofRequests, Session.nesting]
  | succ depth => simp only [ofRequests, trace_nesting_succ, List.flatMap_assoc]

/-- **One level of the tree.** What is done in a run is what is done apart from the runs within it,
and what is done in each of those. -/
theorem perm_ran (x : Executor π σ) (files : FileStore) (m : Started π σ) :
    (m.opening.map Event.logged ++ (m.ran x files).trace).Perm
      (m.events x files ++ (m.inner x files).flatMap
        fun m' ↦ m'.opening.map Event.logged ++ (m'.ran x files).trace) := by
  have hran : (m.ran x files).trace.Perm ((m.alone x files).trace ++
      x.replyTrace (Session.nesting x files m.depth) m.state (m.handed x files)) :=
    (Session.settled_runOrPause x _ _ m.prompt m.session m.state).perm
  have hreplies := x.perm_replyTrace (Session.nesting x files m.depth) m.state (m.handed x files)
  rw [flatMap_trace_nesting] at hreplies
  have htogether := ((hran.trans (hreplies.append_left _)).append_left
    (m.opening.map Event.logged))
  simpa only [events, inner, replies, List.append_assoc] using htogether

/-- A run within a run was started by a request, and may go one level less deep. -/
theorem exists_request_of_mem_inner {m' : Started π σ} (h : m' ∈ m.inner x files) :
    ∃ depth request state, m.depth = depth + 1 ∧
      ofRequest? files depth request state = some m' := by
  rw [inner] at h
  cases hdepth : m.depth with
  | zero => simp [hdepth, ofRequests] at h
  | succ depth =>
    simp only [hdepth, ofRequests, List.mem_flatMap, Option.mem_toList] at h
    obtain ⟨asked, -, hasked⟩ := h
    exact ⟨depth, asked.1, asked.2, rfl, hasked⟩

theorem exists_openScript_of_ofRequest? {depth : ℕ} {request : Request π} {state : σ}
    (h : ofRequest? files depth request state = some m) :
    ∃ s records, Session.openScript files request.path request.previous request.echoLevel
        request.strict = .ok (s, records) ∧
      m = ⟨records, s, request.prompt, depth, state⟩ := by
  rw [ofRequest?] at h
  cases hopen : Session.openScript files request.path request.previous request.echoLevel
    request.strict with
  | error e => simp [hopen] at h
  | ok opened =>
    simp only [hopen, Option.some.injEq] at h
    exact ⟨opened.1, opened.2, rfl, h.symm⟩

/-- **The whole tree.** What is done in a run is what is done in each run of the tree apart from the
runs within it. By induction on the levels. -/
theorem perm_runsWithin (n : ℕ) (h : m.depth = n) :
    (m.opening.map Event.logged ++ (m.ran x files).trace).Perm
      ((runsWithin x files n m).flatMap fun m' ↦ m'.events x files) := by
  induction n generalizing m with
  | zero =>
    -- at the last level no request starts a run
    have hlevel := m.perm_ran x files
    rw [inner, h, ofRequests, List.flatMap_nil] at hlevel
    rw [runsWithin, List.flatMap_singleton]
    rwa [List.append_nil] at hlevel
  | succ n ih =>
    rw [runsWithin, List.flatMap_cons, List.flatMap_assoc]
    refine (m.perm_ran x files).trans (List.Perm.append_left _ ?_)
    refine List.Perm.flatMap_left _ fun m' hm' ↦ ih ?_
    obtain ⟨depth, request, state, hdepth, hstarted⟩ := exists_request_of_mem_inner hm'
    obtain ⟨s, records, -, rfl⟩ := exists_openScript_of_ofRequest? hstarted
    exact Nat.succ.inj (h.symm.trans hdepth) |>.symm

/-! ### Each run of the tree -/

theorem mem_runs_self (x : Executor π σ) (files : FileStore) (m : Started π σ) :
    m ∈ m.runs x files := by
  rw [runs]
  cases m.depth <;> exact List.mem_cons_self

/-- What is logged when a session is opened bears its path. -/
theorem script_of_mem_openScript {path : Path} {previous : π} {echoLevel : Int} {strict : Bool}
    {s : Session π} {records : List Log.Record}
    (h : Session.openScript files path previous echoLevel strict = .ok (s, records)) :
    ∀ r ∈ records, r.script = some s.path.text := by
  rw [Session.openScript] at h
  split at h
  · cases h
    simp
  · cases h
  · split at h
    · cases h
    · cases h
      simp [Session.record]

/-- Every session of the tree has been opened under its own path, if the outer one has. -/
theorem script_of_mem_opening {n : ℕ} {m' : Started π σ}
    (hopening : ∀ r ∈ m.opening, r.script = some m.session.path.text)
    (h : m' ∈ runsWithin x files n m) :
    ∀ r ∈ m'.opening, r.script = some m'.session.path.text := by
  induction n generalizing m with
  | zero =>
    obtain rfl := List.mem_singleton.1 h
    exact hopening
  | succ n ih =>
    rcases List.mem_cons.1 h with rfl | h
    · exact hopening
    · obtain ⟨started, hstarted, h⟩ := List.mem_flatMap.1 h
      obtain ⟨depth, request, state, -, hrequest⟩ := exists_request_of_mem_inner hstarted
      obtain ⟨s, records, hopen, rfl⟩ := exists_openScript_of_ofRequest? hrequest
      exact ih (script_of_mem_openScript hopen) h

/-- A run is **undisturbed** by the runs within it, and comes to a summary. -/
structure Undisturbed (x : Executor π σ) (files : FileStore) (m : Started π σ)
    (summary : Summary π) : Prop where
  /-- The run comes to the summary. -/
  result : (m.ran x files).value.1 = .ok summary
  /-- The session comes to the same as alone, and stands at the same place. -/
  value : (m.ran x files).value = (m.alone x files).value
  /-- The executor is left in the same state as by the session alone. -/
  left : (m.ran x files).state = (m.alone x files).state
  /-- What the session does alone it does in the run, in the same order. -/
  sublist : (m.alone x files).trace.Sublist (m.ran x files).trace
  /-- The session hands back its own value. -/
  previous : summary.previous = m.session.previous
  /-- The summary counts the outcomes of the commands that the session itself has handed over. -/
  counts : summary.Counts (m.outcomes x files)
  /-- What the session reports is told by its summary and by the place where it stands. -/
  reports : (m.alone x files).trace.signed =
    m.session.reports m.prompt summary (m.ran x files).value.2
  /-- Every record that the session signs bears its own path. -/
  signs : ∀ r ∈ m.opening ++ (m.alone x files).trace.signed, r.script = some m.session.path.text
  /-- The commands that the session hands over are those that its own script gives, comments and
  the exit command apart, up to the one at which it stops, and it stands right behind that one. -/
  place : ∀ script, m.session.stream = .opened script →
    x.Keeps (Session.nesting x files m.depth) script m.state →
    ∃ n, Session.StopsFirst x (Session.nesting x files m.depth) script.reader m.state n ∧
      m.handed x files = Session.dispatched script.reader (n + 1) ∧
      (m.ran x files).value.2 =
        { m.session with stream := .opened (script.withReader (script.reader.after (n + 1))) }

/-- The commands that a session hands over alone are those of its run. -/
theorem handed_eq (x : Executor π σ) (files : FileStore) (m : Started π σ) :
    m.handed x files = (m.session.run (x.settled (Session.nesting x files m.depth))
      (Session.nesting x files 0) m.state).trace.commands :=
  Session.commands_trace_runOrPause _ _ _ _ _

/-- A run from whose own commands nothing escapes is undisturbed. -/
theorem exists_undisturbed
    (houtcomes : ∀ outcome ∈ m.outcomes x files, ∀ e, outcome ≠ .escaped e)
    (hopening : ∀ r ∈ m.opening, r.script = some m.session.path.text) :
    ∃ summary, m.Undisturbed x files summary := by
  have hsettled := Session.settled_runOrPause x (Session.nesting x files m.depth)
    (Session.nesting x files 0) m.prompt m.session m.state
  -- what is asked of the run is asked of the settled one, whose outcomes are the same
  have hvalue : (m.ran x files).value = (m.session.run
      (x.settled (Session.nesting x files m.depth)) (Session.nesting x files 0) m.state).value :=
    hsettled.value.trans (Session.value_runOrPause _ _ _ _ _)
  have hquiet := x.quiet_settled (Session.nesting x files m.depth) (Session.nesting x files 0)
  rw [outcomes, handed_eq] at houtcomes
  rw [← (x.applyAll_settled _ (Session.nesting x files 0) _ _).1] at houtcomes
  obtain ⟨summary, hsummary⟩ := Session.exists_ok_run hquiet m.session m.state houtcomes
  obtain ⟨hprevious, hcounts⟩ := Session.counts_run_settled x _ _ m.session m.state hsummary
  have hreports := Session.signed_runOrPause hquiet m.prompt m.session m.state
    ((congrArg Prod.fst (Session.value_runOrPause _ _ _ _ _)).trans hsummary)
  have hresult : (m.ran x files).value.1 = .ok summary := by rw [hvalue, hsummary]
  refine ⟨summary, hresult, hsettled.value, hsettled.left, hsettled.sublist, hprevious, ?_, ?_,
    ?_, ?_⟩
  · rw [outcomes, handed_eq]
    exact hcounts
  · rw [ran, hsettled.value]
    exact hreports
  · intro r hr
    rcases List.mem_append.1 hr with hr | hr
    · exact hopening r hr
    · exact Session.script_of_mem_reports (hreports ▸ hr)
  · intro script hscript hkeeps
    rw [handed_eq, hvalue]
    exact Session.exists_stopsFirst_run_settled _ hscript hkeeps

/-! ### All runs of the tree -/

/-- The commands that are handed over in a run apart from the runs within it. -/
theorem commands_events (x : Executor π σ) (files : FileStore) (m : Started π σ) :
    (m.events x files).commands = m.handed x files := by
  have hremarks : Trace.commands ((m.replies x files).flatMap
      (Reply.remarks (Session.nesting x files m.depth))) = [] := by
    rw [Trace.commands_flatMap, List.flatMap_eq_nil_iff]
    exact fun reply _ ↦ reply.commands_remarks _
  rw [events, Trace.commands_append, Trace.commands_append, hremarks, Trace.commands_map_logged,
    List.nil_append, List.append_nil, handed]

/-- The records that are signed in a run apart from the runs within it. -/
theorem signed_events (hopening : ∀ r ∈ m.opening, r.script = some m.session.path.text) :
    (m.events x files).signed = m.opening ++ (m.alone x files).trace.signed := by
  have hremarks : Trace.signed ((m.replies x files).flatMap
      (Reply.remarks (Session.nesting x files m.depth))) = [] := by
    rw [Trace.signed_flatMap, List.flatMap_eq_nil_iff]
    exact fun reply _ ↦ reply.signed_remarks _
  have hsigned : m.opening.filter (·.script.isSome) = m.opening :=
    List.filter_eq_self.2 fun r hr ↦ by simp [hopening r hr]
  rw [events, Trace.signed_append, Trace.signed_append, hremarks, Trace.signed_map_logged, hsigned,
    List.append_nil]

/-- An undisturbed run accounts for the commands that its session hands over. -/
theorem Undisturbed.accounted_eq {summary : Summary π} (h : m.Undisturbed x files summary) :
    m.accounted x files = (m.handed x files).length := by
  rw [accounted, h.result]
  exact h.counts.length_eq.symm.trans (x.length_value_applyAll _ _ _)

end Started

/-- **Sessions within a session do not disturb it.** Let nothing escape from the commands of a run
and of the runs within it. Then each of these runs comes to a summary of its own, as if every
command had been answered at once; what is done in all is what each of them does; the executor has
been handed as many commands as their summaries account for; and the records that sessions sign are
those of each session under its own path. -/
theorem Session.runs_undisturbed (x : Executor π σ) (files : FileStore) (s : Session π)
    (prompt : Option Text) (depth : ℕ) (state : σ)
    (houtcomes : ∀ m ∈ (Started.mk [] s prompt depth state).runs x files,
      ∀ outcome ∈ m.outcomes x files, ∀ e, outcome ≠ .escaped e) :
    let outer : Started π σ := ⟨[], s, prompt, depth, state⟩
    let runs := outer.runs x files
    let ran := s.runOrPause x (nesting x files depth) prompt state
    outer ∈ runs ∧
      (∀ m ∈ runs, ∃ summary, m.Undisturbed x files summary) ∧
      ran.trace.Perm (runs.flatMap fun m ↦ m.events x files) ∧
      ran.trace.commands.length = (runs.map fun m ↦ m.accounted x files).sum ∧
      ran.trace.signed.Perm (runs.flatMap fun m ↦ m.opening ++ (m.alone x files).trace.signed) := by
  intro outer runs ran
  have hopening : ∀ m ∈ runs, ∀ r ∈ m.opening, r.script = some m.session.path.text :=
    fun m hm ↦ Started.script_of_mem_opening (by simp [outer]) hm
  have hundisturbed : ∀ m ∈ runs, ∃ summary, m.Undisturbed x files summary := fun m hm ↦
    Started.exists_undisturbed (houtcomes m hm) (hopening m hm)
  have hperm : ran.trace.Perm (runs.flatMap fun m ↦ m.events x files) :=
    Started.perm_runsWithin (m := outer) depth rfl
  refine ⟨outer.mem_runs_self x files, hundisturbed, hperm, ?_, ?_⟩
  · -- every command is accounted for by the run whose session has handed it over
    have hcommands := (Trace.commands_perm hperm).length_eq
    rw [Trace.commands_flatMap, List.length_flatMap] at hcommands
    refine hcommands.trans (congrArg List.sum (List.map_congr_left fun m hm ↦ ?_))
    obtain ⟨summary, hsummary⟩ := hundisturbed m hm
    rw [m.commands_events, hsummary.accounted_eq]
  · have hsigned := Trace.signed_perm hperm
    rw [Trace.signed_flatMap] at hsigned
    refine hsigned.trans (.of_eq (List.flatMap_congr fun m hm ↦ ?_))
    exact Started.signed_events (hopening m hm)

/-- An executor that has the script of a name run for each command, whose answer is a success, a
failure without a code, or a rejection: with a script that runs itself, two levels deep. -/
theorem Session.runs_undisturbed_script_of_itself :
    let answer (command : Text) : Outcome :=
      if command = "test".toList then .failed "flaky".toList
      else if command = "ship it".toList then .code 305
      else .code 0
    let x : Executor Unit Unit := ⟨fun _ ↦ 0, fun _ _ ↦ none, fun state command ↦
      .nest state ⟨.ofText command, (), defaultEchoLevel, false, none⟩ fun state _ ↦
        .answer state (answer command)⟩
    let octets := "build\ntest\nship it\ntidy\n".toUTF8.toList
    let files : FileStore := ⟨[([], 0), (["build".toList], 1)],
      [(1, ⟨.file octets, FileStore.fileMode, 0⟩), (0, ⟨.directory, 0o755, 0⟩)], 1, []⟩
    let s : Session Unit :=
      ⟨.ofText "build".toList, (), defaultEchoLevel, .opened (.atStart 1 octets)⟩
    let outer : Started Unit Unit := ⟨[], s, some "check".toList, 2, ()⟩
    (∃ summary, outer.Undisturbed x files summary) ∧
      (s.runOrPause x (nesting x files 2) (some "check".toList) ()).trace.commands.length =
        ((outer.runs x files).map fun m ↦ m.accounted x files).sum := by
  intro answer x octets files s outer
  -- whatever the scripts do that are run, the answer depends on the command alone
  have hanswer : ∀ command e, answer command ≠ .escaped e := by
    intro command e
    simp only [answer]
    split
    · simp
    · split <;> simp
  have houtcomes : ∀ (nesting : Nesting Unit Unit) (commands : List Text),
      ∀ outcome ∈ (x.applyAll nesting () commands).value, ∀ e, outcome ≠ .escaped e := by
    intro nesting commands
    induction commands with
    | nil => simp [Executor.applyAll]
    | cons command commands ih =>
      intro outcome houtcome
      rcases List.mem_cons.1 houtcome with rfl | houtcome
      · exact hanswer command
      · exact ih outcome houtcome
  obtain ⟨houter, hruns, -, htotal, -⟩ := Session.runs_undisturbed x files s (some "check".toList)
    2 () fun m _ ↦ houtcomes _ _
  exact ⟨hruns outer houter, htotal⟩

end CommandScript
