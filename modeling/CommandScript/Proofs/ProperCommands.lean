import CommandScript.Proofs.Consumption
import CommandScript.Proofs.Reassembly
import CommandScript.Proofs.Unfolding
import Mathlib

/-!
# What reaches an executor

A command is **proper** for an executor when it can be read again, is not the exit command, and all
of its tokens are plain. `Reachable` are the sessions that come from an opening by calls, over
whatever executors and whatever the calls come to. Every command that such a session reads is a
comment line in its normal form or has plain tokens only, and every command that it hands over is
proper, those of the scripts that are run within it included (`Reachable.commands_proper`).

What carries this is that a script always stands before **physical lines**: readings leave a final
part of them, and a script that has been changed is cut into lines anew.
-/
namespace CommandScript

variable {π σ : Type}

/-! ### Readers before physical lines -/

/-- Whether a reader stands **before lines**: what it has not read are physical lines of texts. -/
def Reader.IsBeforeLines (r : Reader) : Prop :=
  ∀ raw ∈ r.unread, ∃ t, raw ∈ Text.physicalLines t

namespace Reader

theorem isBeforeLines_ofText (t : Text) : (ofText t).IsBeforeLines := fun _ hraw ↦ ⟨t, hraw⟩

/-- A reading leaves a final part of the lines. -/
theorem IsBeforeLines.read {r : Reader} (h : r.IsBeforeLines) : r.read.reader.IsBeforeLines :=
  fun raw hraw ↦ h raw (r.unread_suffix.subset hraw)

theorem IsBeforeLines.readable_command {r : Reader} (h : r.IsBeforeLines) :
    Readable r.read.command := by
  refine ⟨wellFormed_command_read r, tab_not_mem_command_read r, ?_⟩
  refine not_mem_command_read (by decide) (by decide) fun raw hraw ↦ ?_
  obtain ⟨t, ht⟩ := h raw hraw
  exact Line.newline_not_mem_normalize ht

end Reader

/-- A script that has changed is cut into lines anew. -/
theorem Reader.IsBeforeLines.upToDate {script : Script.Opened} (h : script.reader.IsBeforeLines)
    (octets? : Option (List UInt8)) : (script.upToDate octets?).reader.IsBeforeLines := by
  rcases script.upToDate_eq_or_updated? octets? with hsame | ⟨octets, hchanged⟩
  · rwa [hsame]
  · rw [Script.Opened.updated?] at hchanged
    split at hchanged
    · cases hchanged
    · rw [← Option.some.inj hchanged]
      exact fun raw hraw ↦ ⟨_, List.mem_of_mem_take hraw⟩

namespace Session

/-- A command that is **proper** for an executor. -/
structure Proper (command : Text) : Prop extends Reader.Readable command where
  /-- No token of it opens a comment or is a continuation marker. -/
  plain : ∀ token ∈ Token.split command, Line.isPlain token = true
  /-- It is not the exit command. -/
  ne_exit : command ≠ exitCommand

/-- A command that is no comment has plain tokens only. -/
theorem plain_of_not_isComment {command : Text} (h : Reader.WellFormed command)
    (hcomment : isComment command = false) :
    ∀ token ∈ Token.split command, Line.isPlain token = true := by
  rcases h.parts with hopens | ⟨-, hplain, -⟩
  · simp [isComment, hopens] at hcomment
  · exact hplain

/-! ### Runs -/

variable {x : Executor π σ} {nesting : Nesting π σ} {s : Session π} {script : Script.Opened}
  {commands warnings : ℕ} {state : σ}

/-- A run leaves its script before lines. By induction on how it unfolds. -/
theorem Unfolds.isBeforeLines {ran : Traced σ (Except Escape (Summary π) × Script.Opened)}
    (h : Unfolds x nesting s script commands warnings state ran)
    (hlines : script.reader.IsBeforeLines) : ran.value.2.reader.IsBeforeLines := by
  induction h with
  | exit => exact hlines.read
  | comment _ _ _ ih => exact ih hlines.read
  | stops => exact hlines.read
  | goesOn _ _ _ _ _ ih => exact ih (hlines.read.upToDate _)

/-- Whether all that is run for requests hands over proper commands only. -/
def NestsProper (nesting : Nesting π σ) : Prop :=
  ∀ request state, ∀ command ∈ (nesting request state).trace.commands, Proper command

/-- The runs within a reply hand over proper commands. -/
theorem NestsProper.complete (h : NestsProper nesting) (reply : Reply π σ) :
    ∀ command ∈ (reply.complete nesting).trace.commands, Proper command := by
  induction reply with
  | answer state outcome => simp [Reply.complete]
  | log level message rest ih => exact ih
  | print text rest ih => exact ih
  | nest state request resume ih =>
    intro command hcommand
    rw [Reply.complete, Traced.after, Trace.commands_append, List.mem_append] at hcommand
    rcases hcommand with hinner | hrest
    · exact h request state command hinner
    · exact ih _ _ command hrest

/-- A turn hands over its own command and those of its reply, all of them proper. -/
theorem NestsProper.turnTrace (h : NestsProper nesting) {reply : Traced σ Outcome}
    (hlines : script.reader.IsBeforeLines) (hexit : script.reader.read.command ≠ exitCommand)
    (hcomment : isComment script.reader.read.command = false)
    (hreply : (x.apply state script.reader.read.command).complete nesting = reply) :
    ∀ command ∈ (s.turnTrace script reply).commands, Proper command := by
  intro command hcommand
  rw [commands_turnTrace] at hcommand
  rcases List.mem_cons.1 hcommand with rfl | hcommand
  · exact ⟨hlines.readable_command,
      plain_of_not_isComment (Reader.wellFormed_command_read _) hcomment, hexit⟩
  · subst hreply
    exact h.complete _ command hcommand

/-- A run hands over proper commands. By induction on how it unfolds: each of its own commands is
read from lines. -/
theorem Unfolds.proper {ran : Traced σ (Except Escape (Summary π) × Script.Opened)}
    (h : Unfolds x nesting s script commands warnings state ran)
    (hnesting : NestsProper nesting) (hlines : script.reader.IsBeforeLines) :
    ∀ command ∈ ran.trace.commands, Proper command := by
  induction h with
  | exit =>
    rw [Trace.commands_map_logged]
    simp
  | comment _ _ _ ih =>
    rw [Traced.after, Trace.commands_append, commands_noted_append_shown, List.nil_append]
    exact ih hlines.read
  | stops hexit hcomment hreply => exact hnesting.turnTrace hlines hexit hcomment hreply
  | goesOn hexit hcomment hreply _ _ ih =>
    intro command hcommand
    rw [Traced.after, Trace.commands_append, List.mem_append] at hcommand
    rcases hcommand with hturn | hrest
    · exact hnesting.turnTrace hlines hexit hcomment hreply command hturn
    · exact ih (hlines.read.upToDate _) command hrest

/-! ### Sessions -/

/-- A session whose script, while it is open, stands before lines. -/
def HasLines (s : Session π) : Prop :=
  ∀ script, s.stream = .opened script → script.reader.IsBeforeLines

theorem hasLines_of_openScript {files : FileStore} {path : Path} {previous : π} {echoLevel : Int}
    {strict : Bool} {records : List Log.Record}
    (h : openScript files path previous echoLevel strict = .ok (s, records)) : s.HasLines := by
  rw [openScript] at h
  split at h
  · cases h
    rintro script ⟨⟩
    exact Reader.isBeforeLines_ofText _
  · cases h
  · split at h
    · cases h
    · cases h
      rintro script ⟨⟩

theorem HasLines.run (h : s.HasLines) (x : Executor π σ) (nesting : Nesting π σ) (state : σ) :
    (s.run x nesting state).value.2.HasLines := by
  cases hstream : s.stream with
  | opened script =>
    rw [run_of_opened x nesting state hstream]
    rintro script' ⟨⟩
    exact (unfolds_runFrom x nesting s script 0 0 state).isBeforeLines (h script hstream)
  | absent | closed script =>
    rw [Session.run, hstream]
    exact h

theorem hasLines_close (s : Session π) : s.close.HasLines := by
  intro script hscript
  rw [close] at hscript
  split at hscript
  · cases hscript
  · next hnot => exact absurd hscript (hnot script)

theorem HasLines.call (h : s.HasLines) (x : Executor π σ) (nesting : Nesting π σ) (state : σ)
    (c : Call) : (s.call x nesting state c).value.2.HasLines := by
  cases c with
  | read =>
    rw [Session.call, readCommand]
    cases hstream : s.stream with
    | opened script =>
      rintro script' ⟨⟩
      exact (h script hstream).read
    | absent | closed script => exact h
  | run => exact h.run x nesting state
  | pause prompt => exact h.run x nesting state
  | runAndClose => exact hasLines_close _
  | close => exact hasLines_close s

/-- A run of a session hands over proper commands. -/
theorem HasLines.proper_run (h : s.HasLines) (hnesting : NestsProper nesting) (state : σ) :
    ∀ command ∈ (s.run x nesting state).trace.commands, Proper command := by
  cases hstream : s.stream with
  | opened script =>
    rw [run_of_opened x nesting state hstream]
    exact (unfolds_runFrom x nesting s script 0 0 state).proper hnesting (h script hstream)
  | absent | closed script =>
    rw [Session.run, hstream]
    simp

/-- **All that is run for requests hands over proper commands.** By induction on the depth to which
scripts may run each other: what a request opens is before lines. -/
theorem nestsProper_nesting (x : Executor π σ) (files : FileStore) (depth : ℕ) :
    NestsProper (Session.nesting x files depth) := by
  induction depth with
  | zero => simp [NestsProper, Session.nesting]
  | succ depth ih =>
    intro request state command hcommand
    rw [Session.nesting] at hcommand
    cases hopen : openScript files request.path request.previous request.echoLevel
      request.strict with
    | error e => simp [hopen] at hcommand
    | ok opened =>
      simp only [hopen, Trace.commands_append, Trace.commands_map_logged, List.nil_append,
        commands_trace_runOrPause] at hcommand
      exact (hasLines_of_openScript hopen).proper_run ih state command hcommand

/-- A call on a session hands over proper commands. -/
theorem HasLines.proper_call (h : s.HasLines) (hnesting : NestsProper nesting) (state : σ)
    (c : Call) :
    ∀ command ∈ (s.call x nesting state c).trace.commands, Proper command := by
  cases c with
  | read =>
    rw [Session.call]
    cases s.readCommand with
    | ok reading =>
      simp only [Trace.commands_map_logged]
      simp
    | error e => simp
  | run => exact h.proper_run hnesting state
  | pause prompt =>
    intro command hcommand
    rw [Session.call, commands_trace_pause] at hcommand
    exact h.proper_run hnesting state command hcommand
  | runAndClose => exact h.proper_run hnesting state
  | close => simp [Session.call]

/-! ### Reachable sessions -/

/-- A session is **reachable** when it comes from an opening by calls. The calls may be made over
any executors, which may run other scripts in any way. -/
inductive Reachable : Session π → Prop
  /-- A session that has been opened. -/
  | opened {files : FileStore} {path : Path} {previous : π} {echoLevel : Int} {strict : Bool}
      {s : Session π} {records : List Log.Record}
      (h : openScript files path previous echoLevel strict = .ok (s, records)) : Reachable s
  /-- A session after a call. -/
  | call {σ : Type} {s : Session π} (h : Reachable s) (x : Executor π σ) (nesting : Nesting π σ)
      (state : σ) (c : Call) : Reachable (s.call x nesting state c).value.2

theorem Reachable.hasLines (h : s.Reachable) : s.HasLines := by
  induction h with
  | opened h => exact hasLines_of_openScript h
  | call _ x nesting state c ih => exact ih.call x nesting state c

/-- A command that is **read well** from lines: it can be read again, and it is a comment among the
lines in its normal form, or all of its tokens are plain. -/
structure ReadWell (lines : List Text) (command : Text) : Prop extends
    Reader.Readable command where
  /-- It is a comment line, or no token of it opens a comment or is a continuation marker. -/
  kind : (command.head? = some '#' ∧
      ∃ raw ∈ lines, Line.isComment raw = true ∧ command = Line.normalize raw) ∨
    ∀ token ∈ Token.split command, Line.isPlain token = true

theorem readWell_of_isBeforeLines {r : Reader} (h : r.IsBeforeLines) :
    ReadWell r.unread r.read.command := by
  refine ⟨h.readable_command, ?_⟩
  rcases (Reader.wellFormed_command_read r).parts with hcomment | ⟨-, hplain, -⟩
  · exact .inl ⟨hcomment, Reader.exists_isComment_of_head?_read hcomment⟩
  · exact .inr hplain

/-- The lines that a session has still to read. -/
def unread (s : Session π) : List Text :=
  match s.stream with
  | .opened script => script.reader.unread
  | _ => []

/-- **Only well-formed commands are read and handed over.** Whatever has become of a session since
it was opened, the command that it reads next is not empty, holds no line feed and no tab, and has
no blank at its ends; it is a comment line in its normal form, or no token of it opens a comment or
is a continuation marker. Every command that a call on it hands to an executor, for itself or for a
script that is run within it, is of the second kind and not the exit command. No reading, of any
script at any place, gives an empty command. -/
theorem Reachable.commands_proper (h : s.Reachable) :
    (∀ command records next, s.readCommand = .ok (command, records, next) →
      ReadWell s.unread command) ∧
      (∀ (x : Executor π σ) (files : FileStore) (depth : ℕ) (state : σ) (c : Call),
        ∀ command ∈ (s.call x (Session.nesting x files depth) state c).trace.commands,
          Proper command) ∧
      ∀ script : Script.Opened, script.reader.read.command ≠ [] := by
  refine ⟨fun command records next hread ↦ ?_, fun x files depth state c ↦ ?_, fun script ↦ ?_⟩
  · rw [readCommand] at hread
    rw [unread]
    cases hstream : s.stream with
    | opened script =>
      simp only [hstream, Except.ok.injEq, Prod.mk.injEq] at hread
      rw [← hread.1]
      exact readWell_of_isBeforeLines (h.hasLines script hstream)
    | absent =>
      simp only [hstream, Except.ok.injEq, Prod.mk.injEq] at hread
      rw [← hread.1]
      -- as at the end of the lines of a script
      exact readWell_of_isBeforeLines (r := ⟨[], 0⟩) (by simp [Reader.IsBeforeLines])
    | closed script => simp [hstream] at hread
  · exact h.hasLines.proper_call (nestsProper_nesting x files depth) state c
  · exact (Reader.wellFormed_command_read _).ne_nil

/-- A session that was opened on a file and run until a rejection stopped it, with a command of two
lines and a comment behind it. -/
theorem commands_proper_after_rejection :
    let octets := "ship it\nbuild _\n\tall # tail\n# docs\n".toUTF8.toList
    let files : FileStore := ⟨[([], 0), (["release".toList], 1)],
      [(1, ⟨.file octets, FileStore.fileMode, 0⟩), (0, ⟨.directory, FileStore.directoryMode, 0⟩)],
      1, []⟩
    let x : Executor Unit (RehearsalState Unit) := .rehearsal
    let start : Session Unit :=
      ⟨.ofText "release".toList, (), defaultEchoLevel, .opened (.atStart 1 octets)⟩
    let state : RehearsalState Unit := ⟨0, .ofCode 305, []⟩
    let s := (start.call x (Session.nesting x files 2) state .run).value.2
    s.Reachable ∧ ∀ (state : RehearsalState Unit) (c : Call),
      ∀ command ∈ (s.call x (Session.nesting x files 2) state c).trace.commands,
        Proper command := by
  intro octets files x start state s
  have hfile : files.openFile (.ofText "release".toList) = .ok (1, octets) := by
    simp only [files]
    cbv
  have hopen : openScript files (.ofText "release".toList) () defaultEchoLevel true =
      .ok (start, []) := by
    simp only [openScript, hfile, start]
  have hreachable : s.Reachable := .call (.opened hopen) x (Session.nesting x files 2) state .run
  exact ⟨hreachable, fun state c ↦ hreachable.commands_proper.2.1 x files 2 state c⟩

end Session

end CommandScript
