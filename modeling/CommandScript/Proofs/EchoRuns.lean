import CommandScript.Executor.Echo
import CommandScript.Proofs.Course
import CommandScript.Proofs.Unfolding
import CommandScript.Reader.Listing
import Mathlib.Data.Nat.Find

/-!
# Listing a script and echoing it

A listing reads a script up to its first exit command and runs nothing; a run over the echo executor
reads and dispatches. Both stop at the same place, `ExitsFirst`: the listing because it looks for
the exit command only (`ExitsFirst.readings_eq`), the run because no outcome of an echo stops it
(`Unfolds.exists_echoRun`). The echo executor remembers the commands of the listing but for the
comments, and what the run prints to its listing are the same texts, together with the comments
when these are shown.
-/
namespace CommandScript

variable {π : Type}

/-! ### Printed texts -/

/-- The texts of a trace that are printed to the listing. -/
def Trace.listed (trace : Trace) : List Text :=
  trace.filterMap fun | .printed .listing t => some t | _ => none

namespace Trace

theorem listed_append (before rest : Trace) :
    (before ++ rest).listed = before.listed ++ rest.listed := List.filterMap_append

@[simp] theorem listed_nil : listed [] = [] := rfl

@[simp] theorem listed_applied_cons (command : Text) (rest : Trace) :
    listed (.applied command :: rest) = rest.listed := rfl

@[simp] theorem listed_logged_cons (record : Log.Record) (rest : Trace) :
    listed (.logged record :: rest) = rest.listed := rfl

@[simp] theorem listed_printed_cons (text : Text) (rest : Trace) :
    listed (.printed .listing text :: rest) = text :: rest.listed := rfl

@[simp] theorem listed_map_logged (records : List Log.Record) :
    listed (records.map Event.logged) = [] := by
  induction records with
  | nil => rfl
  | cons record records ih => rw [List.map_cons, listed_logged_cons, ih]

end Trace

/-! ### The first exit command -/

namespace Reader

variable {r : Reader} {n : ℕ}

/-- The first exit command of a script comes after a number of other commands. -/
def ExitsFirst (r : Reader) (n : ℕ) : Prop :=
  r.commandAt n = exitCommand ∧ ∀ k < n, r.commandAt k ≠ exitCommand

theorem exitsFirst_zero (h : r.read.command = exitCommand) : r.ExitsFirst 0 :=
  ⟨h, fun k hk ↦ absurd hk (Nat.not_lt_zero k)⟩

theorem ExitsFirst.succ (h : r.read.reader.ExitsFirst n) (h0 : r.read.command ≠ exitCommand) :
    r.ExitsFirst (n + 1) := by
  refine ⟨(r.commandAt_succ n).trans h.1, fun k hk ↦ ?_⟩
  cases k with
  | zero => exact h0
  | succ k => exact (r.commandAt_succ k).trans_ne (h.2 k (by omega))

theorem ExitsFirst.of_succ (h : r.ExitsFirst (n + 1)) : r.read.reader.ExitsFirst n :=
  ⟨(r.commandAt_succ n).symm.trans h.1,
    fun k hk ↦ (r.commandAt_succ k).symm.trans_ne (h.2 (k + 1) (by omega))⟩

/-- Every script has a first exit command, be it only the one that the end of its lines gives. -/
theorem exists_exitsFirst (r : Reader) : ∃ n, r.ExitsFirst n :=
  have hexit : ∃ n, r.commandAt n = exitCommand := ⟨_, r.commandAt_of_length_le le_rfl⟩
  ⟨Nat.find hexit, Nat.find_spec hexit, fun _ ↦ Nat.find_min hexit⟩

/-- There is only one first exit command. -/
theorem ExitsFirst.eq {m : ℕ} (hm : r.ExitsFirst m) (hn : r.ExitsFirst n) : m = n := by
  rcases Nat.lt_trichotomy m n with hlt | heq | hlt
  · exact absurd hm.1 (hn.2 m hlt)
  · exact heq
  · exact absurd hn.1 (hm.2 n hlt)

/-- A listing makes the readings up to the first exit command, and that one. -/
theorem ExitsFirst.readings_eq (h : r.ExitsFirst n) : r.readings = r.firstReadings (n + 1) := by
  induction n generalizing r with
  | zero =>
    have hexit : r.read.command = exitCommand := h.1
    rw [readings, dif_pos hexit]
    rfl
  | succ n ih =>
    have hfirst : r.read.command ≠ exitCommand := h.2 0 (by omega)
    rw [readings, dif_neg hfirst, ih h.of_succ, firstReadings_succ r (n + 1)]

/-- A listing gives the commands before the first exit command. -/
theorem ExitsFirst.listing_eq (h : r.ExitsFirst n) : r.listing = r.commands n := by
  rw [listing, h.readings_eq, map_command_firstReadings, commands_add, List.filter_append]
  have hothers : (r.commands n).filter (· ≠ exitCommand) = r.commands n := by
    refine List.filter_eq_self.2 fun command hcommand ↦ ?_
    obtain ⟨k, hk, rfl⟩ := mem_commands.1 hcommand
    exact decide_eq_true (h.2 k hk)
  have hexit : ((r.after n).commands 1).filter (· ≠ exitCommand) = [] := by
    rw [commands_succ, show (r.after n).read.command = exitCommand from h.1]
    rfl
  rw [hothers, hexit, List.append_nil]

end Reader

namespace Session

/-- The commands that are echoed among the first ones of a reader: those that are no comments. -/
def echoed (r : Reader) (n : ℕ) : List Text := (r.commands n).filter fun c ↦ !isComment c

theorem echoed_succ (r : Reader) (n : ℕ) :
    echoed r (n + 1) = if isComment r.read.command then echoed r.read.reader n
      else r.read.command :: echoed r.read.reader n := by
  rw [echoed, Reader.commands_succ, List.filter_cons, echoed]
  cases isComment r.read.command <;> rfl

/-- What is echoed before the first exit command is the listing without its comments. -/
theorem echoed_eq_of_exitsFirst {r : Reader} {n : ℕ} (h : r.ExitsFirst n) :
    echoed r n = r.listing.filter fun c ↦ !isComment c := by
  rw [echoed, h.listing_eq]

/-- What a **run over the echo executor** comes to that stops at the exit command behind a number of
other commands. -/
structure EchoRun (s : Session π) (script : Script.Opened) (commands warnings : ℕ)
    (state : EchoState)
    (ran : Traced EchoState (Except Escape (Summary π) × Script.Opened)) (n : ℕ) : Prop where
  /-- That is the first exit command. -/
  exits : script.reader.ExitsFirst n
  /-- The echoed commands are counted, and the script stands right after the exit command. -/
  value : ran.value = (.ok ⟨s.previous, commands + (echoed script.reader n).length, warnings,
    none⟩, script.withReader (script.reader.after (n + 1)))
  /-- The echoed commands are remembered. -/
  left : ran.state = { state with history := state.history ++ echoed script.reader n }
  /-- The echoed commands are printed, and the comments with them while the levels are the same. -/
  listed : ran.trace.listed =
    if state.verboseLevel = s.echoLevel then script.reader.commands n else echoed script.reader n

variable {nesting : Nesting π EchoState} {s : Session π} {script : Script.Opened}
  {commands warnings : ℕ} {state : EchoState}
  {ran : Traced EchoState (Except Escape (Summary π) × Script.Opened)}

/-- A comment before the rest of a run. -/
theorem EchoRun.comment {n : ℕ} (h : EchoRun s script.next commands warnings state ran n)
    (hexit : script.reader.read.command ≠ exitCommand)
    (hcomment : isComment script.reader.read.command = true) :
    EchoRun s script commands warnings state (ran.after (script.reader.read.records.map
      Event.logged ++ if state.verboseLevel = s.echoLevel then
        [Event.printed .listing script.reader.read.command] else [])) (n + 1) := by
  have hechoed : echoed script.reader (n + 1) = echoed script.next.reader n := by
    rw [echoed_succ, if_pos hcomment]
    rfl
  refine ⟨h.exits.succ hexit, ?_, ?_, ?_⟩
  · rw [hechoed, Reader.after_succ']
    exact h.value
  · rw [hechoed]
    exact h.left
  · rw [hechoed, Reader.commands_succ, Traced.after, Trace.listed_append, Trace.listed_append,
      Trace.listed_map_logged, h.listed]
    split <;> rfl

/-- An echoed command before the rest of a run. -/
theorem EchoRun.command {n : ℕ}
    (h : EchoRun s script.next (commands + 1) warnings
      { state with history := state.history ++ [script.reader.read.command] } ran n)
    (hexit : script.reader.read.command ≠ exitCommand)
    (hcomment : isComment script.reader.read.command = false) :
    EchoRun s script commands warnings state (ran.after (s.turnTrace script
      ((Executor.echo.apply state script.reader.read.command).complete nesting))) (n + 1) := by
  have hechoed : echoed script.reader (n + 1) =
      script.reader.read.command :: echoed script.next.reader n := by
    rw [echoed_succ, hcomment]
    rfl
  have hturn : (s.turnTrace script ((Executor.echo.apply state
      script.reader.read.command).complete nesting)).listed = [script.reader.read.command] := by
    rw [turnTrace, Trace.listed_append, Trace.listed_append, Trace.listed_map_logged]
    rfl
  refine ⟨h.exits.succ hexit, ?_, ?_, ?_⟩
  · rw [hechoed, Reader.after_succ', List.length_cons, Nat.add_comm _ 1, ← Nat.add_assoc]
    exact h.value
  · rw [hechoed, List.append_cons]
    exact h.left
  · rw [hechoed, Reader.commands_succ, Traced.after, Trace.listed_append, hturn, h.listed]
    split <;> rfl

/-- **A run over the echo executor stops at the first exit command** and echoes what comes before
it. By induction on how it unfolds: an echo succeeds and knows of no file, so no turn stops the run
and each goes on with the script as it is. -/
theorem Unfolds.exists_echoRun
    (h : Unfolds .echo nesting s script commands warnings state ran) :
    ∃ n, EchoRun s script commands warnings state ran n := by
  induction h with
  | exit h =>
    refine ⟨0, Reader.exitsFirst_zero h, rfl, ?_, ?_⟩
    · simp [echoed]
    · simp [echoed]
  | comment h hcomment _ ih =>
    obtain ⟨n, hn⟩ := ih
    exact ⟨n + 1, hn.comment h hcomment⟩
  | stops _ _ hreply hstops =>
    -- the code of an echo is that of a success
    subst hreply
    cases hstops
  | goesOn h hcomment hreply _ _ ih =>
    subst hreply
    obtain ⟨n, hn⟩ := ih
    exact ⟨n + 1, EchoRun.command hn h hcomment⟩

/-- What a session whose script is open does over the echo executor: it stops at the first exit
command, and what it echoes up to there is the listing. -/
theorem exists_run_echo (nesting : Nesting π EchoState) (state : EchoState)
    (hs : s.stream = .opened script) :
    ∃ n, script.reader.ExitsFirst n ∧
      let echoed := script.reader.listing.filter fun c ↦ !isComment c
      let ran := s.run .echo nesting state
      ran.value = (.ok ⟨s.previous, echoed.length, 0, none⟩,
        { s with stream := .opened (script.withReader (script.reader.after (n + 1))) }) ∧
      ran.state = { state with history := state.history ++ echoed } ∧
      ran.trace.listed =
        if state.verboseLevel = s.echoLevel then script.reader.listing else echoed := by
  obtain ⟨n, hexits, hvalue, hleft, hlisted⟩ :=
    (unfolds_runFrom .echo nesting s script 0 0 state).exists_echoRun
  rw [echoed_eq_of_exitsFirst hexits] at hvalue hleft hlisted
  rw [← hexits.listing_eq] at hlisted
  refine ⟨n, hexits, ?_⟩
  rw [run_of_opened .echo nesting state hs]
  refine ⟨?_, hleft, hlisted⟩
  rw [hvalue, Nat.zero_add]

/-- A pause prints what a run prints. -/
theorem listed_trace_runOrPause {σ : Type} (x : Executor π σ) (nesting : Nesting π σ)
    (prompt : Option Text) (s : Session π) (state : σ) :
    (s.runOrPause x nesting prompt state).trace.listed =
      (s.run x nesting state).trace.listed := by
  cases prompt with
  | none => rfl
  | some name =>
    refine (Trace.listed_append (_ :: (s.run x nesting state).trace) _).trans ?_
    cases (s.run x nesting state).value.1 <;> exact List.append_nil _

end Session

end CommandScript
