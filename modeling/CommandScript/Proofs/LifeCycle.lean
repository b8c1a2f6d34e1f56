import CommandScript.Executor.Rehearsal
import CommandScript.Proofs.Consumption
import Mathlib

/-!
# The life of a session

A session is opened at most once, when it is made, and after that calls can only close it. Which
calls have been made settles whether it is open (`isOpen_afterCalls`): what the executor does, what
the runs come to, and what escapes from them makes no difference. What a session is besides its
script no call changes at all, nor whether it ever had one (`Keeps`).

A session that is not open **rests**: a call on it does nothing, and gives back what there is to
give without a script (`Rests`).
-/
namespace CommandScript.Session

variable {π σ : Type}

/-! ### What a call keeps -/

/-- What a session **keeps** in the next one: all but the place of its script, and whether it has
ever had a script. -/
structure Keeps (s next : Session π) : Prop where
  /-- The path of the script. -/
  path : next.path = s.path
  /-- What it hands back. -/
  previous : next.previous = s.previous
  /-- The level at which comments are printed. -/
  echoLevel : next.echoLevel = s.echoLevel
  /-- A session without a script gets none, and any other has one for ever. -/
  script : next.line? = none ↔ s.line? = none

theorem Keeps.refl (s : Session π) : s.Keeps s := ⟨rfl, rfl, rfl, .rfl⟩

theorem Keeps.trans {s next last : Session π} (h : s.Keeps next) (h' : next.Keeps last) :
    s.Keeps last :=
  ⟨h'.path.trans h.path, h'.previous.trans h.previous, h'.echoLevel.trans h.echoLevel,
    h'.script.trans h.script⟩

variable {x : Executor π σ} {nesting : Nesting π σ} {s : Session π} {state : σ}

/-- Only a session that never had a script has no line number. -/
theorem line?_eq_none_iff : s.line? = none ↔ s.stream = .absent := by
  rw [line?]
  cases s.stream <;> simp

theorem line?_isSome_of_isOpen (h : s.isOpen = true) : s.line?.isSome = true := by
  obtain ⟨script, hscript⟩ := exists_stream_of_isOpen h
  rw [line?, hscript]
  rfl

/-- An open script may be read on. -/
theorem keeps_withStream {script script' : Script.Opened} (hs : s.stream = .opened script) :
    s.Keeps { s with stream := .opened script' } := by
  refine ⟨rfl, rfl, rfl, ?_⟩
  simp [line?_eq_none_iff, hs]

theorem keeps_close (s : Session π) : s.Keeps s.close := by
  rw [close]
  cases hstream : s.stream with
  | opened script =>
    refine ⟨rfl, rfl, rfl, ?_⟩
    simp [line?_eq_none_iff, hstream]
  | _ => exact .refl s

theorem isOpen_close (s : Session π) : s.close.isOpen = false := by
  rw [close]
  cases hstream : s.stream with
  | opened script => rfl
  | _ => simp [isOpen, hstream]

/-- Closing takes no line number away. -/
theorem line?_close (s : Session π) : s.close.line? = s.line? := by
  rw [close]
  cases hstream : s.stream with
  | opened script => simp [line?, hstream]
  | _ => rfl

theorem close_of_not_isOpen (h : s.isOpen = false) : s.close = s := by
  rw [close]
  cases hstream : s.stream with
  | opened script => simp [isOpen, hstream] at h
  | _ => rfl

/-- A run leaves the session open as it was. -/
theorem keeps_run (x : Executor π σ) (nesting : Nesting π σ) (s : Session π) (state : σ) :
    s.Keeps (s.run x nesting state).value.2 ∧
      (s.run x nesting state).value.2.isOpen = s.isOpen := by
  cases hopen : s.isOpen with
  | true =>
    obtain ⟨script, hscript⟩ := exists_stream_of_isOpen hopen
    rw [run_of_opened x nesting state hscript]
    exact ⟨keeps_withStream hscript, rfl⟩
  | false =>
    rw [run_of_not_isOpen x nesting state hopen]
    exact ⟨.refl s, hopen⟩

/-! ### What calls make of a session -/

/-- **One call.** It leaves the session open if that was open and the call is no closing, whatever
it comes to. -/
theorem keeps_call (x : Executor π σ) (nesting : Nesting π σ) (s : Session π) (state : σ)
    (c : Call) :
    s.Keeps (s.call x nesting state c).value.2 ∧
      (s.call x nesting state c).value.2.isOpen = (s.isOpen && c.leavesOpen) := by
  obtain ⟨hkeeps, hopen⟩ := keeps_run x nesting s state
  cases c with
  | read =>
    rw [call, readCommand, Call.leavesOpen, Bool.and_true]
    cases hstream : s.stream with
    | opened script => exact ⟨keeps_withStream hstream, by simp [isOpen, hstream]⟩
    | absent | closed script => exact ⟨.refl s, rfl⟩
  | run => exact ⟨hkeeps, by rw [Call.leavesOpen, Bool.and_true]; exact hopen⟩
  | pause prompt => exact ⟨hkeeps, by rw [Call.leavesOpen, Bool.and_true]; exact hopen⟩
  | runAndClose =>
    refine ⟨hkeeps.trans (keeps_close _), ?_⟩
    rw [Call.leavesOpen, Bool.and_false]
    exact isOpen_close _
  | close => exact ⟨keeps_close s, by rw [Call.leavesOpen, Bool.and_false]; exact isOpen_close s⟩

theorem keeps_afterCalls (x : Executor π σ) (nesting : Nesting π σ) (s : Session π) (state : σ)
    (calls : List Call) : s.Keeps (afterCalls x nesting s state calls).1 := by
  induction calls generalizing s state with
  | nil => exact .refl s
  | cons c rest ih => exact (keeps_call x nesting s state c).1.trans (ih _ _)

/-- **Any calls.** A session is open after them if it was open before and none of them is a closing.
By induction on the calls. -/
theorem isOpen_afterCalls (x : Executor π σ) (nesting : Nesting π σ) (s : Session π) (state : σ)
    (calls : List Call) :
    (afterCalls x nesting s state calls).1.isOpen = (s.isOpen && calls.all Call.leavesOpen) := by
  induction calls generalizing s state with
  | nil => simp [afterCalls]
  | cons c rest ih =>
    rw [afterCalls, ih, (keeps_call x nesting s state c).2, List.all_cons, Bool.and_assoc]

/-! ### A session at rest -/

/-- A session that **rests** and hands back a value. Each call leaves it and the executor as they
are, and nothing is read, handed over or printed. -/
structure Rests (x : Executor π σ) (nesting : Nesting π σ) (previous : π) (s : Session π) :
    Prop where
  /-- A run comes to a summary without counts and without an error. -/
  run : ∀ state, s.call x nesting state .run =
    ⟨(.ok (.summary ⟨previous, 0, 0, none⟩), s), state, []⟩
  /-- A pause comes to the same, and logs its start and its end. -/
  pause : ∀ prompt state, s.call x nesting state (.pause prompt) =
    ⟨(.ok (.summary ⟨previous, 0, 0, none⟩), s), state,
      [.logged (s.record .info (pauseStart prompt)), .logged (s.record .info (pauseEnd prompt))]⟩
  /-- So does a run with a closing behind it, which logs nothing. -/
  runAndClose : ∀ state, s.call x nesting state .runAndClose =
    ⟨(.ok (.summary ⟨previous, 0, 0, none⟩), s), state, []⟩
  /-- There is nothing to close. -/
  close : ∀ state, s.call x nesting state .close = ⟨(.ok .done, s), state, []⟩
  /-- A session that never had a script reads the exit command. -/
  read_of_inert : s.line? = none → ∀ state,
    s.call x nesting state .read = ⟨(.ok (.command exitCommand), s), state, []⟩
  /-- A session whose script has been closed cannot be read. -/
  read_of_closed : s.line?.isSome = true → ∀ state,
    s.call x nesting state .read = ⟨(.error .closedScript, s), state, []⟩

/-- **A session that is not open rests.** -/
theorem rests_of_not_isOpen (x : Executor π σ) (nesting : Nesting π σ) (h : s.isOpen = false) :
    s.Rests x nesting s.previous := by
  have hrun (state : σ) : s.run x nesting state = ⟨(.ok ⟨s.previous, 0, 0, none⟩, s), state, []⟩ :=
    run_of_not_isOpen x nesting state h
  refine ⟨fun state ↦ ?_, fun prompt state ↦ ?_, fun state ↦ ?_, fun state ↦ ?_,
    fun hinert state ↦ ?_, fun hclosed state ↦ ?_⟩
  · rw [call, hrun]
    rfl
  · rw [call, pause_eq, hrun]
    rfl
  · rw [call, hrun]
    simp only [close_of_not_isOpen h]
    rfl
  · rw [call, close_of_not_isOpen h]
  · rw [call, readCommand, line?_eq_none_iff.1 hinert]
    rfl
  · cases hstream : s.stream with
    | opened script => simp [isOpen, hstream] at h
    | absent => simp [line?, hstream] at hclosed
    | closed script => rw [call, readCommand, hstream]

/-! ### From the opening on -/

/-- A session is open at first if the file can be opened, and otherwise it has no script. -/
theorem isOpen_of_openScript {files : FileStore} {path : Path} {previous : π} {echoLevel : Int}
    {strict : Bool} {start : Session π} {records : List Log.Record}
    (h : openScript files path previous echoLevel strict = .ok (start, records)) :
    (start.isOpen = true ↔ ∃ found, files.openFile path = .ok found) ∧
      (start.line? = none ↔ start.isOpen = false) ∧ start.previous = previous := by
  rw [openScript] at h
  cases hfile : files.openFile path with
  | ok found =>
    rw [hfile] at h
    cases h
    simp [isOpen, line?]
  | error fault =>
    rw [hfile] at h
    cases fault with
    | embeddedNull => cases h
    | refused fault =>
      cases strict with
      | true => cases h
      | false =>
        cases h
        simp [isOpen, line?]

/-- **The life of a session is settled by the calls on it.** However a session has been opened, be
it on a file or, without being strict, on none, and whatever is called on it over whatever executor,
it is open as long as the file could be opened and no call was a closing. So it is never opened
again. While it is open it has a place in a script, and it keeps one when it is closed. It is not
open behind a run with a closing, whether that has come to a summary or something has escaped from
it, and closing it again changes nothing. A session that is not open rests and hands back what it
was given when it was opened. -/
theorem life_settled_by_calls {files : FileStore} {path : Path} {previous : π} {echoLevel : Int}
    {strict : Bool} {start : Session π} {records : List Log.Record}
    (h : openScript files path previous echoLevel strict = .ok (start, records))
    (x : Executor π σ) (nesting : Nesting π σ) (state : σ) (calls : List Call) :
    let s := (afterCalls x nesting start state calls).1
    (start.isOpen = true ↔ ∃ found, files.openFile path = .ok found) ∧
      s.isOpen = (start.isOpen && calls.all Call.leavesOpen) ∧
      (∀ more, (afterCalls x nesting start state (calls ++ more)).1.isOpen = true →
        s.isOpen = true) ∧
      (s.isOpen = true → s.line?.isSome = true) ∧
      (s.line? = none ↔ start.isOpen = false) ∧
      (∀ state', (s.call x nesting state' .runAndClose).value.2.isOpen = false ∧
        (s.call x nesting state' .runAndClose).value.1 = (s.call x nesting state' .run).value.1) ∧
      (s.close.isOpen = false ∧ s.close.close = s.close ∧ s.close.line? = s.line?) ∧
      (s.isOpen = false → s.Rests x nesting previous) := by
  intro s
  obtain ⟨hfound, hinert, hprevious⟩ := isOpen_of_openScript h
  have hkeeps : start.Keeps s := keeps_afterCalls x nesting start state calls
  have hopen : s.isOpen = (start.isOpen && calls.all Call.leavesOpen) :=
    isOpen_afterCalls x nesting start state calls
  refine ⟨hfound, hopen, fun more hmore ↦ ?_, line?_isSome_of_isOpen, hkeeps.script.trans hinert,
    fun state' ↦ ⟨?_, rfl⟩, ⟨isOpen_close s, close_of_not_isOpen (isOpen_close s), line?_close s⟩,
    fun hrest ↦ ?_⟩
  · -- more calls can only add a closing
    rw [isOpen_afterCalls, List.all_append, ← Bool.and_assoc, ← hopen, Bool.and_eq_true] at hmore
    exact hmore.1
  · rw [(keeps_call x nesting s state' .runAndClose).2, Call.leavesOpen, Bool.and_false]
  · rw [← hprevious, ← hkeeps.previous]
    exact rests_of_not_isOpen x nesting hrest

/-- A session from whose run with a closing the breakdown of an executor escapes. -/
theorem life_settled_by_calls_breakdown :
    let octets := "build\nship it\ntest\n".toUTF8.toList
    let files : FileStore := ⟨[([], 0), (["release".toList], 1)],
      [(1, ⟨.file octets, FileStore.fileMode, 0⟩), (0, ⟨.directory, FileStore.directoryMode, 0⟩)],
      1, []⟩
    let x : Executor ℕ (RehearsalState ℕ) := .rehearsal
    let nesting := Session.nesting x files 1
    let state : RehearsalState ℕ := ⟨0, .ofCode 0,
      [("ship it".toList, [⟨none, none, some "no power".toList, none, 0⟩])]⟩
    let start : Session ℕ :=
      ⟨.ofText "release".toList, 7, defaultEchoLevel, .opened (.atStart 1 octets)⟩
    let s := (afterCalls x nesting start state [.read, .runAndClose]).1
    openScript files (.ofText "release".toList) 7 defaultEchoLevel true = .ok (start, []) ∧
      s.isOpen = false ∧ s.line?.isSome = true ∧ s.Rests x nesting 7 := by
  intro octets files x nesting state start s
  have hfile : files.openFile (.ofText "release".toList) = .ok (1, octets) := by
    simp only [files]
    cbv
  have hstart : openScript files (.ofText "release".toList) 7 defaultEchoLevel true =
      .ok (start, []) := by
    simp only [openScript, hfile, start]
  obtain ⟨-, hopen, -, -, hinert, -, -, hrests⟩ :=
    life_settled_by_calls hstart x nesting state [.read, .runAndClose]
  have hline : s.line? ≠ none := fun hnone ↦ by
    have hclosed := hinert.1 hnone
    cases hclosed
  exact ⟨hstart, hopen, Option.isSome_iff_ne_none.2 hline, hrests hopen⟩

end CommandScript.Session
