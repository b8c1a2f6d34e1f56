import CommandScript.Proofs.Account
import CommandScript.Proofs.ConsumedLines

/-!
# Progress through a script

A reading takes its reader forward by at least one line, or gives the exit command and leaves the
reader as it is. The latter happens at the end of the lines, and nowhere else (`Advances`).

A run reads at one **place** after another. Each of these readings but the last takes a line
(`Strides.length_le`), and each command for the executor takes a line that is not blank
(`length_handedAt_le`), so that the lines bound both. This holds over any executor; where the
script is kept, the lines are those of its text (`progress_and_termination`). When a command is
rejected, the last record of the run names the line up to which lines have been taken for it.
-/
namespace CommandScript

/-! ### Lines that are not blank -/

namespace Line

/-- Whether there is nothing but blanks in a physical line. -/
def isBlank (raw : Text) : Bool := raw.all Text.isBlank

/-- There is nothing in the normal form of a blank line. -/
theorem normalize_of_isBlank {raw : Text} (h : isBlank raw = true) : normalize raw = [] := by
  cases hnormal : normalize raw with
  | nil => rfl
  | cons c rest =>
    have hc : Text.isBlank c = false := (tight_normalize raw).head c (by rw [hnormal]; rfl)
    have hmem : c ∈ normalize raw := hnormal ▸ List.mem_cons_self
    -- the first character would be a space, or one of the blanks of the line
    rcases eq_or_mem_of_mem_normalize hmem with rfl | ⟨hraw, -⟩
    · exact absurd hc (by decide)
    · exact absurd (List.all_eq_true.1 h c hraw) (by simp [hc])

/-- A line with a body is not blank. -/
theorem isBlank_of_body_ne_nil {raw : Text} (h : body raw ≠ []) : isBlank raw = false := by
  by_contra hblank
  have hnormal := normalize_of_isBlank ((Bool.not_eq_false _).mp hblank)
  refine h ?_
  rw [body, tokens, hnormal, Token.split_nil]
  rfl

end Line

/-! ### One reading -/

namespace Reader

/-- A reading takes a line while there is one. -/
theorem consumed_ne_nil {r : Reader} (h : r.unread ≠ []) : r.consumed ≠ [] := by
  intro hnil
  have hlt := r.length_unread_read_lt h
  have hunread := r.harvest_read.1
  rw [hnil, List.nil_append] at hunread
  rw [← hunread] at hlt
  exact lt_irrefl _ hlt

/-- A reading that does not give the exit command takes a line. -/
theorem consumed_ne_nil_of_command_ne {r : Reader} (h : r.read.command ≠ exitCommand) :
    r.consumed ≠ [] :=
  consumed_ne_nil fun hnil ↦ h (r.command_read_of_unread_eq_nil hnil)

/-- A command for the executor takes a line that is not blank. -/
theorem exists_not_isBlank_of_isDispatched {r : Reader}
    (h : Session.isDispatched r.read.command = true) :
    ∃ raw ∈ r.consumed, Line.isBlank raw = false := by
  obtain ⟨hexit, hcomment⟩ := (Session.isDispatched_eq_true_iff _).1 h
  obtain ⟨-, -, hharvest, -⟩ := r.harvest_read
  generalize r.read = reading at hexit hcomment hharvest
  generalize r.consumed = lines at hharvest ⊢
  cases hharvest with
  | comment _ hraw =>
    rw [Line.isComment] at hraw
    exact absurd hraw (by simpa [Session.isComment] using hcomment)
  | command _ hne =>
    rw [List.nil_append, bodies] at hne
    obtain ⟨raw, hmem, hbody⟩ : ∃ raw ∈ lines, Line.body raw ≠ [] := by
      by_contra hnone
      push Not at hnone
      exact hne (List.flatMap_eq_nil_iff.2 hnone)
    exact ⟨raw, hmem, Line.isBlank_of_body_ne_nil hbody⟩
  | nothing => exact absurd rfl hexit

/-- How a reader **advances** through the lines of a text. -/
structure Advances (lines : List Text) (r : Reader) : Prop where
  /-- The line number is at most the number of lines. -/
  line_le : r.line ≤ lines.length
  /-- It is the number of the lines that are no longer left. -/
  unread : r.unread = lines.drop r.line
  /-- The next reading takes a line, or it gives the exit command and changes nothing. -/
  forward : r.line < r.read.reader.line ∨ r.read.command = exitCommand ∧ r.read.reader = r
  /-- The latter happens at the end of the lines, and nowhere else. -/
  still_iff : r.read.command = exitCommand ∧ r.read.reader = r ↔ r.unread = []
  /-- At the end of the lines it happens for ever. -/
  forever : r.unread = [] → ∀ n, (r.after n).read = ⟨exitCommand, [], r⟩

/-- A reader at the end of its lines stays there. -/
theorem after_of_unread_eq_nil {r : Reader} (h : r.unread = []) (n : ℕ) : r.after n = r := by
  induction n with
  | zero => rfl
  | succ n ih => rw [after_succ, ih, read_of_unread_eq_nil h]

/-- **A reader of a text advances.** -/
theorem advances_after_ofText (t : Text) (n : ℕ) :
    Advances (Text.physicalLines t) ((ofText t).after n) := by
  obtain ⟨k, hk, hafter⟩ := exists_after_ofText t n
  generalize (ofText t).after n = r at hafter
  subst hafter
  refine ⟨hk, rfl, ?_, ⟨fun hstill ↦ ?_, fun hnil ↦ ?_⟩, fun hnil m ↦ ?_⟩
  · rcases eq_or_ne ((Text.physicalLines t).drop k) [] with hnil | hne
    · right
      rw [read_of_unread_eq_nil (r := ⟨_, k⟩) hnil]
      exact ⟨rfl, rfl⟩
    · left
      have hpos := List.length_pos_iff.2 (consumed_ne_nil (r := ⟨_, k⟩) hne)
      rw [(harvest_read ⟨_, k⟩).2.1]
      exact Nat.lt_add_of_pos_right hpos
  · -- a reading that took a line would not leave the reader as it is
    by_contra hne
    have hlt := length_unread_read_lt _ hne
    rw [hstill.2] at hlt
    exact lt_irrefl _ hlt
  · rw [read_of_unread_eq_nil (r := ⟨_, k⟩) hnil]
    exact ⟨rfl, rfl⟩
  · rw [after_of_unread_eq_nil (r := ⟨_, k⟩) hnil, read_of_unread_eq_nil (r := ⟨_, k⟩) hnil]

end Reader

namespace Session

variable {π σ : Type}

/-! ### The places of a run -/

/-- The lines that are **taken** by the readings at some places. -/
def taken (places : List Reader) : List Text := places.flatMap Reader.consumed

/-- The commands for the executor that are read at some places. -/
def handedAt (places : List Reader) : List Text :=
  (places.map fun r ↦ r.read.command).filter isDispatched

/-- The **strides** of a run from one reader to another: the places at which it reads. Each reading
starts with the line number that the one before it has come to, which has not given the exit
command. The lines may have changed in between. -/
inductive Strides : Reader → List Reader → Reader → Prop
  /-- The run reads once more. -/
  | last {r : Reader} : Strides r [r] r.read.reader
  /-- The run goes on after a reading. -/
  | cons {r next last : Reader} {places : List Reader} (h : r.read.command ≠ exitCommand)
      (hline : next.line = r.read.reader.line) (hrest : Strides next places last) :
      Strides r (r :: places) last

theorem handedAt_cons (r : Reader) (places : List Reader) :
    handedAt (r :: places) =
      if isDispatched r.read.command then r.read.command :: handedAt places
      else handedAt places := by
  rw [handedAt, List.map_cons, List.filter_cons, handedAt]

theorem handedAt_cons_of_isComment {r : Reader} (places : List Reader)
    (h : isComment r.read.command = true) : handedAt (r :: places) = handedAt places := by
  rw [handedAt_cons, if_neg (by simp [isDispatched, h])]

theorem handedAt_cons_of_command {r : Reader} (places : List Reader)
    (h : r.read.command ≠ exitCommand) (hcomment : isComment r.read.command = false) :
    handedAt (r :: places) = r.read.command :: handedAt places := by
  rw [handedAt_cons, if_pos ((isDispatched_eq_true_iff _).2 ⟨h, hcomment⟩)]

theorem taken_cons (r : Reader) (places : List Reader) :
    taken (r :: places) = r.consumed ++ taken places := List.flatMap_cons

/-- The line number goes forward by the lines that are taken. -/
theorem Strides.line_eq {r last : Reader} {places : List Reader} (h : Strides r places last) :
    last.line = r.line + (taken places).length := by
  induction h with
  | @last r =>
    rw [r.harvest_read.2.1, taken_cons, taken, List.flatMap_nil, List.append_nil]
  | @cons r next last places _ hline _ ih =>
    rw [ih, hline, r.harvest_read.2.1, taken_cons, List.length_append, Nat.add_assoc]

/-- **There is at most one reading more than there are lines taken**: only the last reading of a run
can take none. -/
theorem Strides.length_le {r last : Reader} {places : List Reader} (h : Strides r places last) :
    places.length ≤ (taken places).length + 1 := by
  induction h with
  | last => exact Nat.le_add_left _ _
  | cons hexit _ _ ih =>
    have hpos := List.length_pos_iff.2 (Reader.consumed_ne_nil_of_command_ne hexit)
    rw [taken_cons, List.length_append, List.length_cons]
    omega

/-- **There are at most as many commands for the executor as lines taken that are not blank.** -/
theorem length_handedAt_le (places : List Reader) :
    (handedAt places).length ≤ (taken places).countP (!Line.isBlank ·) := by
  induction places with
  | nil => exact Nat.zero_le _
  | cons r places ih =>
    rw [handedAt_cons, taken_cons, List.countP_append]
    split
    · next hdispatched =>
      obtain ⟨raw, hmem, hraw⟩ := Reader.exists_not_isBlank_of_isDispatched hdispatched
      have hpos : 0 < r.consumed.countP (!Line.isBlank ·) :=
        List.countP_pos_iff.2 ⟨raw, hmem, by simp [hraw]⟩
      rw [List.length_cons]
      omega
    · omega

/-- The first readings take the first of the lines that are left. -/
theorem taken_places_append (r : Reader) (n : ℕ) :
    taken (r.places n) ++ (r.after n).unread = r.unread := by
  induction n generalizing r with
  | zero => rfl
  | succ n ih =>
    rw [Reader.places_succ, taken_cons, Reader.after_succ', List.append_assoc, ih]
    exact r.harvest_read.1.symm

/-! ### The walk of a run -/

/-- The end of a run that has come to a rejection: the command of the last place is rejected, lines
have been taken for it, and the last record names the line number after them. -/
structure Halts (s : Session π) (places : List Reader) (line : ℕ) (rejection : Rejection)
    (trace : Trace) : Prop where
  /-- The last reading has given the command, and has taken lines for it. -/
  last : ∃ before failing, places = before ++ [failing] ∧ failing.consumed ≠ [] ∧
    failing.read.command = rejection.command
  /-- The last thing done is the record, which bears the path of the script. -/
  record : ∃ before, trace = before ++
    [.logged ⟨.error, "macro halted at line ".toList ++ (toString line).toList, some s.path.text⟩]

/-- The **walk** of a run: the places at which it has read. -/
structure Walk (x : Executor π σ) (nesting : Nesting π σ) (s : Session π)
    (script : Script.Opened) (commands warnings : ℕ) (state : σ)
    (ran : Traced σ (Except Escape (Summary π) × Script.Opened)) (places : List Reader) :
    Prop where
  /-- The run goes from one place to the next. -/
  strides : Strides script.reader places ran.value.2.reader
  /-- What has been handed over was read at the places. -/
  account : Account x nesting s commands warnings state ran (handedAt places)
  /-- A rejection has been the end of it. -/
  halts : ∀ summary rejection, ran.value.1 = .ok summary → summary.error = some rejection →
    Halts s places ran.value.2.reader.line rejection ran.trace
  /-- Where the script is kept, the places are the first ones of its reader. -/
  kept : x.Keeps nesting script state →
    ∃ n, Course x nesting s script commands warnings state ran n ∧
      places = script.reader.places (n + 1)

variable {x : Executor π σ} {nesting : Nesting π σ} {s : Session π} {script : Script.Opened}
  {commands warnings : ℕ} {state : σ}

/-- More is read, and done, before the end of a run. -/
theorem Halts.cons {places : List Reader} {line : ℕ} {rejection : Rejection} {trace : Trace}
    (h : Halts s places line rejection trace) (r : Reader) (before : Trace) :
    Halts s (r :: places) line rejection (before ++ trace) := by
  obtain ⟨⟨earlier, failing, rfl, hfailing⟩, ⟨told, rfl⟩⟩ := h
  exact ⟨⟨r :: earlier, failing, rfl, hfailing⟩, ⟨before ++ told, (List.append_assoc ..).symm⟩⟩

theorem exists_aftermath_eq_concat {command : Text} {outcome : Outcome} {rejection : Rejection}
    (s : Session π) (line : ℕ) (h : outcome.verdict command = .ok (some rejection)) :
    ∃ before, s.aftermath line command outcome =
      before ++ [.logged (s.record .error (haltMessage line))] := by
  cases outcome with
  | code code =>
    have hrejection : (Status.ofCode code).rejection? command = some rejection := Except.ok.inj h
    rw [aftermath, Dispatched.ofOutcome, hrejection]
    exact ⟨_, rfl⟩
  | failed reason => cases h
  | escaped e => cases h

theorem command_of_verdict {command : Text} {outcome : Outcome} {rejection : Rejection}
    (h : outcome.verdict command = .ok (some rejection)) : rejection.command = command := by
  cases outcome with
  | code code =>
    obtain ⟨cause, -, rfl⟩ := Option.map_eq_some_iff.1 (Except.ok.inj h)
    rfl
  | failed reason => cases h
  | escaped e => cases h

/-- A rejection ends the run with its record. -/
theorem halts_of_verdict {reply : Traced σ Outcome} {rejection : Rejection}
    (h : script.reader.read.command ≠ exitCommand)
    (hverdict : reply.value.verdict script.reader.read.command = .ok (some rejection)) :
    Halts s [script.reader] script.next.reader.line rejection (s.turnTrace script reply) := by
  obtain ⟨before, hbefore⟩ := exists_aftermath_eq_concat s script.next.reader.line hverdict
  refine ⟨⟨[], script.reader, rfl, Reader.consumed_ne_nil_of_command_ne h, ?_⟩, ?_⟩
  · exact (command_of_verdict hverdict).symm
  · rw [turnTrace, hbefore, ← List.append_assoc]
    exact ⟨_, rfl⟩

/-- A script that is brought up to date stays at its line, whether or not the others have
changed. -/
theorem line_reader_upToDate (script : Script.Opened) (octets? : Option (List UInt8)) :
    (script.upToDate octets?).reader.line = script.reader.line := by
  rcases script.upToDate_eq_or_updated? octets? with hsame | ⟨octets, hchanged⟩
  · rw [hsame]
  · rw [Script.Opened.updated?] at hchanged
    split at hchanged
    · cases hchanged
    · rw [← Option.some.inj hchanged]

/-- **Every run has a walk.** By induction on how the run unfolds: a turn is one more place. -/
theorem Unfolds.exists_walk {ran : Traced σ (Except Escape (Summary π) × Script.Opened)}
    (h : Unfolds x nesting s script commands warnings state ran) :
    ∃ places, Walk x nesting s script commands warnings state ran places := by
  induction h with
  | @exit _ _ script _ h =>
    have hhanded : handedAt [script.reader] = [] := by
      rw [handedAt_cons, h]
      rfl
    refine ⟨[script.reader], .last, ?_, ?_, fun _ ↦ ⟨0, course_of_exit h, rfl⟩⟩
    · rw [hhanded]
      exact ⟨.exit h, rfl, Trace.commands_map_logged _⟩
    · rintro summary rejection ⟨⟩ ⟨⟩
  | @comment _ _ script _ _ h hcomment _ ih =>
    obtain ⟨places, hplaces⟩ := ih
    refine ⟨script.reader :: places, .cons h rfl hplaces.strides, ?_, ?_, fun hx ↦ ?_⟩
    · rw [handedAt_cons_of_isComment _ hcomment]
      exact hplaces.account.after (commands_noted_append_shown _ _ _)
    · intro summary rejection hsummary herror
      exact (hplaces.halts summary rejection hsummary herror).cons _ _
    · obtain ⟨n, hcourse, rfl⟩ := hplaces.kept (hx.comment h hcomment)
      exact ⟨n + 1, hcourse.comment h hcomment (commands_noted_append_shown _ _ _),
        (script.reader.places_succ _).symm⟩
  | @stops _ _ script _ _ h hcomment hreply hstops =>
    refine ⟨[script.reader], .last, ?_, fun summary rejection hsummary herror ↦ ?_,
      fun _ ↦ ⟨0, course_of_stops h hcomment hreply hstops, rfl⟩⟩
    · rw [handedAt_cons_of_command _ h hcomment]
      exact account_of_stops hreply hstops
    · obtain ⟨error, hverdict, rfl⟩ := Outcome.exists_verdict_of_map_eq_ok hsummary
      obtain rfl : error = some rejection := herror
      exact halts_of_verdict h hverdict
  | @goesOn _ _ script _ _ _ h hcomment hreply hstops _ ih =>
    obtain ⟨places, hplaces⟩ := ih
    refine ⟨script.reader :: places, .cons h (line_reader_upToDate _ _) hplaces.strides, ?_, ?_,
      fun hx ↦ ?_⟩
    · rw [handedAt_cons_of_command _ h hcomment]
      exact hplaces.account.cons hreply hstops
    · intro summary rejection hsummary herror
      exact (hplaces.halts summary rejection hsummary herror).cons _ _
    · obtain ⟨hnext, hsame⟩ := hx.command h hcomment hreply hstops
      rw [hsame] at hplaces
      obtain ⟨n, hcourse, rfl⟩ := hplaces.kept hnext
      exact ⟨n + 1, hcourse.command h hcomment hreply hstops, (script.reader.places_succ _).symm⟩

/-! ### What bounds a run -/

/-- What **bounds** a run of a session that reads at some places and leaves its script at the last,
over any executor. -/
structure Bounded (x : Executor π σ) (nesting : Nesting π σ) (s : Session π)
    (script : Script.Opened) (state : σ) (places : List Reader) (last : Script.Opened) : Prop where
  /-- The run goes from one place to the next. -/
  strides : Strides script.reader places last.reader
  /-- It leaves the session behind the last of its readings. -/
  left : (s.run x nesting state).value.2 = { s with stream := .opened last }
  /-- The line number goes forward by the lines that are taken. -/
  line_eq : last.reader.line = script.reader.line + (taken places).length
  /-- There is at most one reading more than there are lines taken. -/
  reads_le : places.length ≤ (taken places).length + 1
  /-- The executor is handed the commands that are read at the places. -/
  told : (s.run x nesting state).trace.commands =
    (x.applyAll nesting state (handedAt places)).trace.commands
  /-- There are at most as many of them as lines taken that are not blank. -/
  handed_le : (handedAt places).length ≤ (taken places).countP (!Line.isBlank ·)
  /-- When a command is rejected, the last record names the line number after its lines. -/
  halts : ∀ summary rejection, (s.run x nesting state).value.1 = .ok summary →
    summary.error = some rejection →
      Halts s places last.reader.line rejection (s.run x nesting state).trace

/-- What more bounds the run where the script is kept: the lines of its text. -/
structure BoundedByText (x : Executor π σ) (nesting : Nesting π σ) (s : Session π)
    (script : Script.Opened) (state : σ) (lines : List Text) (places : List Reader)
    (last : Script.Opened) : Prop where
  /-- The run ends: it comes to the command at which it stops, and reads no more. -/
  ends : ∃ n, StopsFirst x nesting script.reader state n ∧
    places = script.reader.places (n + 1) ∧
    (s.run x nesting state).value.1 = summaryAt x nesting s script.reader state n
  /-- The lines that are taken are the next of the text. -/
  lines_eq : lines.take last.reader.line = lines.take script.reader.line ++ taken places
  /-- The line number counts lines of the text. -/
  line_le : last.reader.line ≤ lines.length
  /-- There is at most one reading more than there are lines left. -/
  reads_le : places.length ≤ script.reader.unread.length + 1
  /-- There are at most as many commands for the executor as lines left that are not blank. -/
  handed_le : (handedAt places).length ≤ script.reader.unread.countP (!Line.isBlank ·)

/-- A run of a session whose script is open is bounded. -/
theorem Walk.bounded {places : List Reader} (hs : s.stream = .opened script)
    (h : Walk x nesting s script 0 0 state
      (runFrom x nesting s script 0 0 state) places) :
    Bounded x nesting s script state places
      (runFrom x nesting s script 0 0 state).value.2 := by
  have hrun := run_of_opened x nesting state hs
  refine ⟨h.strides, by rw [hrun], h.strides.line_eq, h.strides.length_le, ?_,
    length_handedAt_le places, ?_⟩
  · rw [hrun]
    exact h.account.told
  · rw [hrun]
    exact h.halts

/-- A run over an executor that keeps its script is bounded by the lines of the text. -/
theorem Walk.boundedByText {places : List Reader} {lines : List Text}
    (hs : s.stream = .opened script)
    (h : Walk x nesting s script 0 0 state (runFrom x nesting s script 0 0 state) places)
    (hx : x.Keeps nesting script state)
    (hunread : script.reader.unread = lines.drop script.reader.line)
    (hline : script.reader.line ≤ lines.length) :
    BoundedByText x nesting s script state lines places
      (runFrom x nesting s script 0 0 state).value.2 := by
  obtain ⟨n, hcourse, rfl⟩ := h.kept hx
  have htaken := taken_places_append script.reader (n + 1)
  have hcount := congrArg List.length htaken
  rw [List.length_append, hunread, List.length_drop] at hcount
  have hlast := h.strides.line_eq
  have hreads := h.strides.length_le
  refine ⟨⟨n, hcourse.stops, rfl, ?_⟩, ?_, by omega, ?_, ?_⟩
  · rw [run_of_opened x nesting state hs]
    exact hcourse.result_eq_summaryAt
  · rw [hlast, List.take_add, ← hunread, ← htaken, List.take_left]
  · rw [hunread, List.length_drop]
    omega
  · rw [← htaken, List.countP_append]
    exact Nat.le_add_right_of_le (length_handedAt_le _)

/-- **Reading goes forward, and a run ends.** After any number of readings of a text, the next one
takes a line, or it gives the exit command and changes nothing; the latter happens at the end of the
lines alone, and from then on for ever. The line number is the number of lines that have been read.
A run from there reads at most once more than there are lines left, over an executor that keeps the
script, and hands over at most as many commands as lines that are not blank; when a command is
rejected, the run ends with the record of the line up to which lines have been taken for it. Over
any other executor this holds of the lines that the run has taken. -/
theorem progress_and_termination (t : Text) (n : ℕ) :
    let lines := Text.physicalLines t
    let r := (Reader.ofText t).after n
    r.Advances lines ∧
      ∀ {π σ : Type} (x : Executor π σ) (nesting : Nesting π σ) (s : Session π)
        (script : Script.Opened) (state : σ), s.stream = .opened script → script.reader = r →
          ∃ places last, Bounded x nesting s script state places last ∧
            (x.Keeps nesting script state →
              BoundedByText x nesting s script state lines places last) := by
  intro lines r
  have hadvances : r.Advances lines := Reader.advances_after_ofText t n
  refine ⟨hadvances, fun x nesting s script state hs hreader ↦ ?_⟩
  obtain ⟨places, hwalk⟩ := (unfolds_runFrom x nesting s script 0 0 state).exists_walk
  refine ⟨places, _, hwalk.bounded hs, fun hx ↦ hwalk.boundedByText hs hx ?_ ?_⟩
  · rw [hreader]
    exact hadvances.unread
  · rw [hreader]
    exact hadvances.line_le

/-- A run after one reading of a text whose next command, of two lines behind a blank one, is
rejected. -/
theorem progress_and_termination_rehearsal :
    let t : Text := "# release\n\nship _\nit\ntidy".toList
    let x : Executor Unit (RehearsalState Unit) := .rehearsal
    let nesting : Nesting Unit (RehearsalState Unit) := fun _ state ↦ ⟨.error .tooDeep, state, []⟩
    let script : Script.Opened := .withReader (.atStart 0 []) ((Reader.ofText t).after 1)
    let s : Session Unit := ⟨.ofText "release".toList, (), defaultEchoLevel, .opened script⟩
    let state : RehearsalState Unit := ⟨0, .ofCode 0, [("ship it".toList, [.ofCode 305])]⟩
    s.stream = .opened script ∧ script.reader = (Reader.ofText t).after 1 ∧
      x.Keeps nesting script state ∧
      ∃ places last, Bounded x nesting s script state places last ∧
        BoundedByText x nesting s script state (Text.physicalLines t) places last := by
  intro t x nesting script s state
  have hkeeps : x.Keeps nesting script state :=
    Executor.keeps_of_octets?_eq_none (fun _ _ ↦ rfl) nesting script state
  obtain ⟨places, last, hbounded, hkept⟩ :=
    (progress_and_termination t 1).2 x nesting s script state rfl rfl
  exact ⟨rfl, rfl, hkeeps, places, last, hbounded, hkept hkeeps⟩

end Session

end CommandScript
