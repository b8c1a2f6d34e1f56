import CommandScript.Proofs.Course
import Mathlib.Order.Monotone.Basic

/-!
# Calls on one session

Whatever calls are made on a session, one after another, the commands of its script are consumed in
their order, each by one call: where one call stops the next one goes on, whether the first stopped
at the exit command, at a rejection, or because something escaped. `Consumes` says what one call
does with the commands that it consumes: a single reading gives its command back and hands over
nothing, and a run or a pause hands over each of its commands once, the comments and the exit
command apart.

`exists_consumes` is the step, one case for each kind of call, and `exists_places` the history of
any length, by induction on the calls: between them lie **places** in the one sequence of commands.
-/
namespace CommandScript.Session

variable {π σ : Type}

/-- Whether a call leaves an open script open: it reads, runs or pauses. -/
def Call.leavesOpen : Call → Bool
  | .read | .run | .pause _ => true
  | .runAndClose | .close => false

/-- The session and the state of the executor after calls that are made one after another. -/
def afterCalls (x : Executor π σ) (nesting : Nesting π σ) (s : Session π) (state : σ) :
    List Call → Session π × σ
  | [] => (s, state)
  | call :: rest =>
    let made := s.call x nesting state call
    afterCalls x nesting made.value.2 made.state rest

/-- An executor keeps the script of a session **through** calls when it keeps what it is at for each
of them that runs the session. -/
def KeepsThrough (x : Executor π σ) (nesting : Nesting π σ) (s : Session π) (state : σ)
    (calls : List Call) : Prop :=
  ∀ i c, calls[i]? = some c → c ≠ .read →
    let before := afterCalls x nesting s state (calls.take i)
    ∀ script, before.1.stream = .opened script → x.Keeps nesting script before.2

/-- What a run **consumes**: the first commands of a reader up to the one at which it stops. Those
for the executor are handed over, and the answer is the summary of the run. -/
structure ConsumesByRun (x : Executor π σ) (nesting : Nesting π σ) (s : Session π) (r : Reader)
    (state : σ) (made : Traced σ (Except Escape (Answer π) × Session π)) (n : ℕ) : Prop where
  /-- The run stops at the command before the place that it leaves the reader at. -/
  stops : ∃ last, n = last + 1 ∧ StopsFirst x nesting r state last ∧
    made.value.1 = (summaryAt x nesting s r state last).map .summary
  /-- The executor is left as after the commands that are consumed. -/
  left : made.state = (x.applyAll nesting state (dispatched r n)).state
  /-- The executor has been handed those commands. -/
  handed : made.trace.commands = (x.applyAll nesting state (dispatched r n)).trace.commands

/-- What a call that leaves the script open **consumes**: the first commands of a reader, in the
given count. -/
def Consumes (x : Executor π σ) (nesting : Nesting π σ) (s : Session π) (r : Reader) (state : σ)
    (made : Traced σ (Except Escape (Answer π) × Session π)) (n : ℕ) : Call → Prop
  | .read =>
    n = 1 ∧ made.value.1 = .ok (.command (r.commandAt 0)) ∧ made.state = state ∧
      made.trace.commands = []
  | .run | .pause _ => ConsumesByRun x nesting s r state made n
  | .runAndClose | .close => False

variable {x : Executor π σ} {nesting : Nesting π σ} {s : Session π} {script : Script.Opened}
  {state : σ}

/-! ### One call -/

/-- A single reading consumes one command. -/
theorem consumes_read (hs : s.stream = .opened script) :
    Consumes x nesting s script.reader state (s.call x nesting state .read) 1 .read ∧
      (s.call x nesting state .read).value.2 =
        { s with stream := .opened (script.withReader (script.reader.after 1)) } := by
  rw [call, readCommand, hs]
  exact ⟨⟨rfl, rfl, rfl, Trace.commands_map_logged _⟩, rfl⟩

/-- A run of a session consumes commands. -/
theorem exists_consumesByRun_run (hs : s.stream = .opened script)
    (hx : x.Keeps nesting script state) :
    ∃ n, ConsumesByRun x nesting s script.reader state (s.call x nesting state .run) n ∧
      (s.call x nesting state .run).value.2 =
        { s with stream := .opened (script.withReader (script.reader.after n)) } := by
  obtain ⟨last, hcourse⟩ := exists_course hx s 0 0
  rw [call, run_of_opened x nesting state hs]
  refine ⟨last + 1, ⟨⟨last, rfl, hcourse.stops, ?_⟩, hcourse.left, hcourse.handed⟩, ?_⟩
  · rw [← hcourse.result_eq_summaryAt]
  · rw [← hcourse.place]

/-- A pause consumes what the run does. -/
theorem ConsumesByRun.pause {n : ℕ} (prompt : Text)
    (h : ConsumesByRun x nesting s script.reader state (s.call x nesting state .run) n) :
    ConsumesByRun x nesting s script.reader state (s.call x nesting state (.pause prompt)) n :=
  ⟨h.stops, h.left, (commands_trace_pause x nesting prompt s state).trans h.handed⟩

theorem ConsumesByRun.pos {r : Reader} {n : ℕ}
    {made : Traced σ (Except Escape (Answer π) × Session π)}
    (h : ConsumesByRun x nesting s r state made n) : 0 < n := by
  obtain ⟨last, rfl, -⟩ := h.stops
  exact Nat.succ_pos last

/-- **Each call consumes commands**, and leaves the session right after them. -/
theorem exists_consumes {c : Call} (hs : s.stream = .opened script)
    (hx : c ≠ .read → x.Keeps nesting script state) (hc : c.leavesOpen = true) :
    ∃ n, 0 < n ∧ Consumes x nesting s script.reader state (s.call x nesting state c) n c ∧
      (s.call x nesting state c).value.2 =
        { s with stream := .opened (script.withReader (script.reader.after n)) } := by
  cases c with
  | read => exact ⟨1, Nat.one_pos, consumes_read hs⟩
  | run =>
    obtain ⟨n, hrun, hplace⟩ := exists_consumesByRun_run hs (hx (by simp))
    exact ⟨n, hrun.pos, hrun, hplace⟩
  | pause prompt =>
    obtain ⟨n, hrun, hplace⟩ := exists_consumesByRun_run hs (hx (by simp))
    exact ⟨n, hrun.pos, hrun.pause prompt, hplace⟩
  | runAndClose => exact absurd hc (by simp [Call.leavesOpen])
  | close => exact absurd hc (by simp [Call.leavesOpen])

/-! ### Calls one after another -/

/-- The **places** of a script between calls that are made one after another on a session: how many
commands have been consumed before each of them. -/
structure Places (x : Executor π σ) (nesting : Nesting π σ) (s : Session π)
    (script : Script.Opened) (state : σ) (calls : List Call) (k : ℕ → ℕ) : Prop where
  /-- Nothing has been consumed before the first call. -/
  zero : k 0 = 0
  /-- What has been consumed stays so. -/
  mono : Monotone k
  /-- The session stands right after the commands that have been consumed. -/
  stands : ∀ i, (afterCalls x nesting s state (calls.take i)).1 =
    { s with stream := .opened (script.withReader (script.reader.after (k i))) }
  /-- Every call consumes the commands between its places, and at least one. -/
  consumes : ∀ i c, calls[i]? = some c →
    let before := afterCalls x nesting s state (calls.take i)
    k i < k (i + 1) ∧
      Consumes x nesting before.1 (script.reader.after (k i)) before.2
        (before.1.call x nesting before.2 c) (k (i + 1) - k i) c

/-- Before any call the session stands where it is. -/
theorem places_nil (hs : s.stream = .opened script) :
    Places x nesting s script state [] fun _ ↦ 0 := by
  refine ⟨rfl, monotone_const, fun i ↦ ?_, fun i c hi ↦ by simp at hi⟩
  obtain ⟨path, previous, echoLevel, stream⟩ := s
  obtain rfl : stream = .opened script := hs
  rw [List.take_nil]
  rfl

/-- The places of calls the first of which consumes a number of commands: those of the others are
further on by that number. -/
def placesAfter (n : ℕ) (k : ℕ → ℕ) : ℕ → ℕ
  | 0 => 0
  | i + 1 => n + k i

/-- The places of a first call and of the others, which are made on the session that it leaves. -/
theorem Places.cons {c : Call} {rest : List Call} {k : ℕ → ℕ} {n : ℕ}
    (hs : s.stream = .opened script) (hpos : 0 < n)
    (hconsumes : Consumes x nesting s script.reader state (s.call x nesting state c) n c)
    (hplace : (s.call x nesting state c).value.2 =
      { s with stream := .opened (script.withReader (script.reader.after n)) })
    (h : Places x nesting (s.call x nesting state c).value.2
      (script.withReader (script.reader.after n)) (s.call x nesting state c).state rest k) :
    Places x nesting s script state (c :: rest) (placesAfter n k) := by
  have hreader : ∀ m, (script.withReader (script.reader.after n)).reader.after m =
      script.reader.after (n + m) := fun m ↦ (script.reader.after_add n m).symm
  -- each time the first place is that of the first call, and the others are further on by `n`
  refine ⟨rfl, monotone_nat_of_le_succ fun i ↦ ?_, fun i ↦ ?_, fun i c' hi ↦ ?_⟩
  · cases i with
    | zero => exact Nat.zero_le _
    | succ i => exact Nat.add_le_add_left (h.mono (Nat.le_succ i)) n
  · cases i with
    | zero =>
      obtain ⟨path, previous, echoLevel, stream⟩ := s
      obtain rfl : stream = .opened script := hs
      rfl
    | succ i =>
      have hstands := h.stands i
      rw [hreader, hplace] at hstands
      rw [List.take_succ_cons, afterCalls, hplace]
      exact hstands
  · cases i with
    | zero =>
      obtain rfl : c = c' := Option.some.inj hi
      have hfirst : placesAfter n k 1 = n := by rw [placesAfter, h.zero, Nat.add_zero]
      rw [Nat.zero_add, hfirst]
      exact ⟨hpos, hconsumes⟩
    | succ i =>
      obtain ⟨hlt, hnext⟩ := h.consumes i c' hi
      rw [hreader] at hnext
      refine ⟨Nat.add_lt_add_left hlt n, ?_⟩
      have hsub : placesAfter n k (i + 1 + 1) - placesAfter n k (i + 1) = k (i + 1) - k i :=
        Nat.add_sub_add_left n (k (i + 1)) (k i)
      rw [hsub]
      exact hnext

/-- **Calls have places.** By induction on the calls: each one goes on where the one before it has
stopped. -/
theorem exists_places {calls : List Call} (hs : s.stream = .opened script)
    (hx : KeepsThrough x nesting s state calls) (hcalls : ∀ c ∈ calls, c.leavesOpen = true) :
    ∃ k, Places x nesting s script state calls k := by
  induction calls generalizing s script state with
  | nil => exact ⟨_, places_nil hs⟩
  | cons c rest ih =>
    have hfirst : c ≠ .read → x.Keeps nesting script state := fun hc ↦ hx 0 c rfl hc script hs
    obtain ⟨n, hpos, hconsumes, hplace⟩ := exists_consumes hs hfirst (hcalls c (by simp))
    have hnext : KeepsThrough x nesting (s.call x nesting state c).value.2
        (s.call x nesting state c).state rest := fun i c' hi ↦ hx (i + 1) c' hi
    have hopen : (s.call x nesting state c).value.2.stream =
        .opened (script.withReader (script.reader.after n)) := by rw [hplace]
    have hrest : ∀ c' ∈ rest, c'.leavesOpen = true :=
      fun c' hc' ↦ hcalls c' (List.mem_cons_of_mem c hc')
    obtain ⟨k, hk⟩ := ih hopen hnext hrest
    exact ⟨_, Places.cons hs hpos hconsumes hplace hk⟩

/-- The commands between the places, one call after another, are the first commands of the
script. -/
theorem Places.flatMap_commands {calls : List Call} {k : ℕ → ℕ}
    (h : Places x nesting s script state calls k) (n : ℕ) :
    (List.range n).flatMap (fun i ↦ (script.reader.after (k i)).commands (k (i + 1) - k i)) =
      script.reader.commands (k n) := by
  induction n with
  | zero => simp [h.zero]
  | succ n ih =>
    rw [List.range_succ, List.flatMap_append, ih, List.flatMap_singleton, ← Reader.commands_add,
      Nat.add_sub_cancel' (h.mono (Nat.le_succ n))]

/-- **No call loses or repeats a command.** Whatever single readings, runs and pauses are made on a
session that has just been opened, and however the runs end, there are places in the sequence of
commands of its script between which the calls consume: each call starts where the one before it has
stopped, and together they consume the first commands of the script, in their order. The line
number never falls, and behind the lines of the script there is the exit command for ever. -/
theorem calls_consume_in_order (x : Executor π σ) (nesting : Nesting π σ) (s : Session π)
    (file : ℕ) (octets : List UInt8) (state : σ) (calls : List Call)
    (hs : s.stream = .opened (.atStart file octets)) (hx : KeepsThrough x nesting s state calls)
    (hcalls : ∀ c ∈ calls, c.leavesOpen = true) :
    let start := Script.reader octets
    ∃ k, Places x nesting s (.atStart file octets) state calls k ∧
      (List.range calls.length).flatMap
          (fun i ↦ (start.after (k i)).commands (k (i + 1) - k i)) =
        start.commands (k calls.length) ∧
      (Monotone fun n ↦ (start.after n).line) ∧
      ∀ n, (Script.lines octets).length ≤ n → start.commandAt n = exitCommand := by
  intro start
  obtain ⟨k, hk⟩ := exists_places hs hx hcalls
  exact ⟨k, hk, hk.flatMap_commands calls.length, fun _ _ ↦ start.line_after_mono,
    fun _ ↦ start.commandAt_of_length_le⟩

/-- A single reading, a run that stops at a rejection, a pause that goes on behind it up to an exit
command, and a run that comes to the end of the script. -/
theorem calls_consume_in_order_rehearsal :
    let x : Executor Unit (RehearsalState Unit) := .rehearsal
    let nesting : Nesting Unit (RehearsalState Unit) := fun _ state ↦ ⟨.error .tooDeep, state, []⟩
    let octets := "build\n# docs\nship it\ntest\nexit\ntidy\n".toUTF8.toList
    let s : Session Unit :=
      ⟨.ofText "release".toList, (), defaultEchoLevel, .opened (.atStart 0 octets)⟩
    let state : RehearsalState Unit := ⟨0, .ofCode 0, [("ship it".toList, [.ofCode 305])]⟩
    let calls : List Call := [.read, .run, .pause "check".toList, .run]
    s.stream = .opened (.atStart 0 octets) ∧ KeepsThrough x nesting s state calls ∧
      (∀ c ∈ calls, c.leavesOpen = true) ∧
      ∃ k, Places x nesting s (.atStart 0 octets) state calls k := by
  intro x nesting octets s state calls
  have hkeeps : KeepsThrough x nesting s state calls := fun _ _ _ _ script _ ↦
    Executor.keeps_of_octets?_eq_none (fun _ _ ↦ rfl) nesting script _
  have hcalls : ∀ c ∈ calls, c.leavesOpen = true := by decide
  obtain ⟨k, hk, -⟩ := calls_consume_in_order x nesting s 0 octets state calls rfl hkeeps hcalls
  exact ⟨rfl, hkeeps, hcalls, k, hk⟩

end CommandScript.Session
