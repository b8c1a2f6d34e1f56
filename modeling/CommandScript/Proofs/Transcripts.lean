import CommandScript.Console.Transcript
import CommandScript.Proofs.Judgements
import CommandScript.Proofs.NestedRuns
import CommandScript.Proofs.Progress

/-!
# Transcripts

What a run prints is told by the **moments** at which it reads: the places in the script, each with
the state in which the commands before it have left the executor. At such a moment a comment is
shown while the verbose level of that state is the echo level, and a command for the executor prints
what its reply prints. When all moments are over, a rejection that refuses a parameter adds one line
(`Unfolds.exists_transcribed`).

Over an executor that prints nothing itself, what the scripts print that it has run stands in
between (`printsAt_of_silent`). Over one that is mute nothing is left but the comments and that line
(`run_transcript`). Where no console is given, the former go to the standard output and the latter
to the error output.
-/
namespace CommandScript

variable {π σ : Type}

/-! ### What is printed -/

namespace Trace

theorem prints_append (before rest : Trace) :
    (before ++ rest).prints = before.prints ++ rest.prints := List.filterMap_append

@[simp] theorem prints_applied_cons (command : Text) (rest : Trace) :
    prints (.applied command :: rest) = rest.prints := rfl

@[simp] theorem prints_logged_cons (record : Log.Record) (rest : Trace) :
    prints (.logged record :: rest) = rest.prints := rfl

@[simp] theorem prints_map_logged (records : List Log.Record) :
    prints (records.map Event.logged) = [] := by
  induction records with
  | nil => rfl
  | cons record records ih => rw [List.map_cons, prints_logged_cons, ih]

end Trace

namespace Rejection

/-- The lines that a rejection adds: one when it refuses a parameter. -/
def alerts : Except Escape (Option Rejection) → List Text
  | .ok (some r) => if r.cause = .illegalParameter then [refusal r.command r.status.code] else []
  | _ => []

end Rejection

namespace Console

variable {trace : Trace} {comments lines : List Text}

/-- What consoles show of comments that are printed to the listing, and of lines printed after them
as alerts. -/
theorem shows_of_prints_eq
    (h : trace.prints = comments.map (Prod.mk .listing) ++ lines.map (Prod.mk .alert))
    (pictures : Pictures) (width : ℕ) :
    transcript pictures width trace = (comments ++ lines).flatMap (render pictures width) ∧
      transcriptOn pictures width .out trace = comments.flatMap (render pictures width) ∧
      transcriptOn pictures width .err trace = lines.flatMap (render pictures width) := by
  have hlisting : ∀ printed ∈ comments.map (Prod.mk Sink.listing),
      outputOf printed.1 = .out := by
    simp [outputOf]
  have halert : ∀ printed ∈ lines.map (Prod.mk Sink.alert), outputOf printed.1 = .err := by
    simp [outputOf]
  refine ⟨?_, ?_, ?_⟩
  · rw [transcript, h, List.flatMap_append, List.flatMap_append, List.flatMap_map,
      List.flatMap_map]
  · rw [transcriptOn, h, List.filter_append, List.filter_eq_self.2 (by simpa using hlisting),
      List.filter_eq_nil_iff.2 (by simp [outputOf]), List.append_nil, List.flatMap_map]
  · rw [transcriptOn, h, List.filter_append, List.filter_eq_nil_iff.2 (by simp [outputOf]),
      List.filter_eq_self.2 (by simpa using halert), List.nil_append, List.flatMap_map]

end Console

/-- The comments among the lines that a reading consumes, in their normal forms: it gives the only
one, or there is none. -/
theorem Reader.map_normalize_filter_isComment (r : Reader) :
    (r.consumed.filter Line.isComment).map Line.normalize =
      if Session.isComment r.read.command then [r.read.command] else [] := by
  obtain ⟨-, -, hharvest, hgathered⟩ := r.harvest_read
  generalize r.read = reading at hharvest ⊢
  generalize r.consumed = lines at hharvest hgathered ⊢
  have hnone {lines : List Text} (h : ∀ raw ∈ lines, Line.isComment raw = false) :
      lines.filter Line.isComment = [] :=
    List.filter_eq_nil_iff.2 fun raw hraw ↦ by simp [h raw hraw]
  cases hharvest with
  | @comment _ raw _ hbefore hraw =>
    rw [List.filter_append, hnone hbefore, List.filter_cons_of_pos hraw,
      if_pos (show Session.isComment (Line.normalize raw) = true from hraw)]
    rfl
  | command hlines hne =>
    -- tokens make no comment, since none of them opens one
    have hall : lines.filter (!Line.isComment ·) = lines :=
      List.filter_eq_self.2 fun raw hraw ↦ by simp [hlines raw hraw]
    rw [hall] at hgathered
    obtain ⟨c, hc, -, hopens⟩ := hgathered.exists_head?_commandOf hne
    rw [hnone hlines, if_neg]
    · rfl
    · rw [Session.isComment, List.nil_append, hc]
      simpa using hopens
  | nothing hlines =>
    rw [hnone hlines]
    rfl

/-- An executor is **silent** when its replies print nothing themselves. -/
def Executor.Silent (x : Executor π σ) (nesting : Nesting π σ) : Prop :=
  ∀ state command, Trace.prints ((x.apply state command).remarks nesting) = []

/-- An executor is **mute** when its replies print nothing, nor does what they run. -/
def Executor.Mute (x : Executor π σ) (nesting : Nesting π σ) : Prop :=
  ∀ state command, ((x.apply state command).complete nesting).trace.prints = []

/-- A reply that prints nothing itself prints what is printed by what it asks to be run. -/
theorem Reply.prints_trace_complete {nesting : Nesting π σ} {reply : Reply π σ}
    (h : Trace.prints (reply.remarks nesting) = []) :
    (reply.complete nesting).trace.prints =
      (reply.requests nesting).flatMap fun asked ↦ (nesting asked.1 asked.2).trace.prints := by
  induction reply with
  | answer state outcome => rfl
  | log level message rest ih => exact ih h
  | print text rest => cases h
  | nest state request resume ih =>
    rw [complete, Traced.after, Trace.prints_append, ih _ _ h, requests, List.flatMap_cons]

/-- A silent executor is mute where the scripts that it runs print nothing. -/
theorem Executor.Silent.mute {x : Executor π σ} {nesting : Nesting π σ} (hx : x.Silent nesting)
    (h : ∀ request state, (nesting request state).trace.prints = []) : x.Mute nesting := by
  intro state command
  rw [Reply.prints_trace_complete (hx state command), List.flatMap_eq_nil_iff]
  exact fun asked _ ↦ h asked.1 asked.2

/-- A rehearsal is silent. -/
theorem Executor.silent_rehearsal (nesting : Nesting π (RehearsalState π)) :
    (Executor.rehearsal : Executor π (RehearsalState π)).Silent nesting := by
  intro state command
  simp only [rehearsal, RehearsalState.reply]
  split
  · rfl
  · rfl
  · rw [Reply.remarks]
    split <;> rfl
  · rfl

namespace Session

open Rejection (alerts)

/-- What a session prints when it has judged an outcome: the line of a refused parameter. -/
theorem prints_aftermath (s : Session π) (line : ℕ) (command : Text) (outcome : Outcome) :
    (s.aftermath line command outcome).prints =
      (alerts (outcome.verdict command)).map (Prod.mk .alert) := by
  cases outcome with
  | failed reason => rfl
  | escaped e => rfl
  | code code =>
    rw [aftermath, Outcome.verdict, Dispatched.ofOutcome]
    cases hrejection : (Status.ofCode code).rejection? command with
    | none => rfl
    | some r =>
      have hof := Status.rejection?_ofCode_eq_some_iff.1 hrejection
      simp only [Trace.prints_append, Dispatched.events, alerts, Trace.prints_logged_cons]
      split
      · next hcause =>
        rw [(hof.index hcause).2.2.1, hof.command_eq, hof.code_eq]
        rfl
      · rfl

theorem prints_turnTrace (s : Session π) (script : Script.Opened) (reply : Traced σ Outcome) :
    (s.turnTrace script reply).prints = reply.trace.prints ++
      (alerts (reply.value.verdict script.reader.read.command)).map (Prod.mk .alert) := by
  rw [turnTrace, Trace.prints_append, Trace.prints_append, Trace.prints_map_logged,
    Trace.prints_applied_cons, prints_aftermath, List.nil_append]

/-! ### The moments of a run -/

/-- The **moments** at which a run reads: each place with the state in which it is read. -/
def moments (x : Executor π σ) (nesting : Nesting π σ) : σ → List Reader → List (Reader × σ)
  | _, [] => []
  | state, r :: places =>
    (r, state) :: moments x nesting (turnState x nesting r.read.command state) places

variable {x : Executor π σ} {nesting : Nesting π σ} {s : Session π} {script : Script.Opened}
  {commands warnings : ℕ} {state : σ} {places : List Reader}

theorem state_applyAll_handedAt_cons (r : Reader) (places : List Reader) :
    (x.applyAll nesting state (handedAt (r :: places))).state =
      (x.applyAll nesting (turnState x nesting r.read.command state) (handedAt places)).state := by
  rw [handedAt_cons, turnState]
  split <;> rfl

/-- The state of a moment is that in which the commands read before it leave the executor. -/
theorem getElem?_moments (state : σ) (places : List Reader) (i : ℕ) :
    (moments x nesting state places)[i]? = places[i]?.map fun r ↦
      (r, (x.applyAll nesting state (handedAt (places.take i))).state) := by
  induction places generalizing state i with
  | nil => rfl
  | cons r places ih =>
    cases i with
    | zero => rfl
    | succ i =>
      rw [List.take_succ_cons, state_applyAll_handedAt_cons]
      exact ih (turnState x nesting r.read.command state) i

/-- Whether a comment is **shown** at a moment: one is read while the verbose level is the echo
level. -/
def isShown (x : Executor π σ) (s : Session π) (moment : Reader × σ) : Bool :=
  isComment moment.1.read.command && x.verboseLevel moment.2 = s.echoLevel

/-- The comments that are shown at some moments. -/
def shownAt (x : Executor π σ) (s : Session π) (moments : List (Reader × σ)) : List Text :=
  (moments.filter (isShown x s)).map fun moment ↦ moment.1.read.command

/-- What is printed at a moment: what the reply to a command prints, or a comment that is shown. -/
def printsAt (x : Executor π σ) (nesting : Nesting π σ) (s : Session π) (moment : Reader × σ) :
    List (Sink × Text) :=
  if isDispatched moment.1.read.command then
    ((x.apply moment.2 moment.1.read.command).complete nesting).trace.prints
  else if isShown x s moment then [(.listing, moment.1.read.command)]
  else []

theorem printsAt_of_isDispatched (h : isDispatched script.reader.read.command = true) :
    printsAt x nesting s (script.reader, state) =
      ((x.apply state script.reader.read.command).complete nesting).trace.prints := if_pos h

theorem isShown_eq_false_of_isDispatched {moment : Reader × σ}
    (h : isDispatched moment.1.read.command = true) : isShown x s moment = false := by
  rw [isShown, ((isDispatched_eq_true_iff _).1 h).2, Bool.false_and]

/-- What is asked to be run at a moment: the requests of the reply to a command. -/
def requestsAt (x : Executor π σ) (nesting : Nesting π σ) (moment : Reader × σ) :
    List (Request π × σ) :=
  if isDispatched moment.1.read.command then
    (x.apply moment.2 moment.1.read.command).requests nesting
  else []

/-- Over a silent executor what is printed at a moment is a comment that is shown, or what is
printed by what is asked to be run. -/
theorem printsAt_of_silent (hx : x.Silent nesting) (moment : Reader × σ) :
    printsAt x nesting s moment = (shownAt x s [moment]).map (Prod.mk .listing) ++
      (requestsAt x nesting moment).flatMap fun asked ↦
        (nesting asked.1 asked.2).trace.prints := by
  rw [printsAt, requestsAt, shownAt, List.filter_cons]
  cases hdispatched : isDispatched moment.1.read.command with
  | true =>
    rw [isShown_eq_false_of_isDispatched hdispatched, if_pos rfl, if_pos rfl,
      Reply.prints_trace_complete (hx _ _)]
    rfl
  | false => cases isShown x s moment <;> rfl

/-- Over a mute executor nothing is printed at any moment but the comments that are shown. -/
theorem flatMap_printsAt_of_mute (hx : x.Mute nesting) (moments : List (Reader × σ)) :
    moments.flatMap (printsAt x nesting s) = (shownAt x s moments).map (Prod.mk .listing) := by
  induction moments with
  | nil => rfl
  | cons moment moments ih =>
    rw [List.flatMap_cons, ih, printsAt, shownAt, shownAt, List.filter_cons]
    cases hdispatched : isDispatched moment.1.read.command with
    | true =>
      rw [isShown_eq_false_of_isDispatched hdispatched, if_pos rfl, hx]
      rfl
    | false => cases isShown x s moment <;> rfl

/-! ### The run -/

/-- The places that a run **visits**: those at which it reads, from a place in a script and a state
of the executor on. -/
inductive Visits (x : Executor π σ) (nesting : Nesting π σ) :
    Script.Opened → σ → List Reader → Prop
  /-- The script gives the exit command. -/
  | exit {script : Script.Opened} {state : σ} (h : script.reader.read.command = exitCommand) :
      Visits x nesting script state [script.reader]
  /-- The script gives a comment. -/
  | comment {script : Script.Opened} {state : σ} {places : List Reader}
      (h : script.reader.read.command ≠ exitCommand)
      (hcomment : isComment script.reader.read.command = true)
      (hrest : Visits x nesting script.next state places) :
      Visits x nesting script state (script.reader :: places)
  /-- The outcome of a command stops the run. -/
  | stops {script : Script.Opened} {state : σ} {reply : Traced σ Outcome}
      (h : script.reader.read.command ≠ exitCommand)
      (hcomment : isComment script.reader.read.command = false)
      (hreply : (x.apply state script.reader.read.command).complete nesting = reply)
      (hstops : reply.value.stops = true) :
      Visits x nesting script state [script.reader]
  /-- After a command the run goes on with the script as it is by now. -/
  | goesOn {script : Script.Opened} {state : σ} {reply : Traced σ Outcome} {places : List Reader}
      (h : script.reader.read.command ≠ exitCommand)
      (hcomment : isComment script.reader.read.command = false)
      (hreply : (x.apply state script.reader.read.command).complete nesting = reply)
      (hstops : reply.value.stops = false)
      (hrest : Visits x nesting (script.next.upToDate (x.octets? reply.state script.file))
        reply.state places) :
      Visits x nesting script state (script.reader :: places)

/-- What a run has **transcribed** that visits some places. -/
structure Transcribed (x : Executor π σ) (nesting : Nesting π σ) (s : Session π)
    (script : Script.Opened) (state : σ)
    (ran : Traced σ (Except Escape (Summary π) × Script.Opened)) (places : List Reader) :
    Prop where
  /-- The run reads at the places. -/
  visits : Visits x nesting script state places
  /-- What is printed at each of them comes in their order, and then the line of a refused
  parameter. -/
  prints : ran.trace.prints = (moments x nesting state places).flatMap (printsAt x nesting s) ++
    (alerts (ran.value.1.map Summary.error)).map (Prod.mk .alert)
  /-- A rejection is that of the command of the last place, by the code that it gets there. -/
  rejected : ∀ r, ran.value.1.map Summary.error = .ok (some r) →
    ∃ before last left code, moments x nesting state places = before ++ [(last, left)] ∧
      ((x.apply left last.read.command).complete nesting).value = .code code ∧
      Rejection.Of last.read.command code r

/-- A run that ends with a verdict has that verdict for its error. -/
theorem map_error_map_verdict (verdict : Except Escape (Option Rejection)) :
    (verdict.map fun error ↦ (⟨s.previous, commands, warnings, error⟩ : Summary π)).map
      Summary.error = verdict := by
  cases verdict <;> rfl

/-- An outcome that does not stop the run adds no line. -/
theorem alerts_verdict_of_not_stops {outcome : Outcome} (h : outcome.stops = false)
    (command : Text) : alerts (outcome.verdict command) = [] := by
  cases outcome with
  | failed reason => rfl
  | escaped e => cases h
  | code code =>
    rw [Outcome.verdict, (Status.rejection?_ofCode_eq_none_iff code command).2
      (not_not.1 (of_decide_eq_false h))]
    rfl

variable {ran : Traced σ (Except Escape (Summary π) × Script.Opened)}

/-- One place before the others. -/
theorem Transcribed.cons {script' : Script.Opened} {before : Trace}
    (h : Transcribed x nesting s script'
      (turnState x nesting script.reader.read.command state) ran places)
    (hvisits : Visits x nesting script state (script.reader :: places))
    (hbefore : before.prints = printsAt x nesting s (script.reader, state)) :
    Transcribed x nesting s script state (ran.after before) (script.reader :: places) := by
  refine ⟨hvisits, ?_, fun r hr ↦ ?_⟩
  · rw [Traced.after, Trace.prints_append, hbefore, h.prints, moments, List.flatMap_cons,
      List.append_assoc]
  · obtain ⟨earlier, last, left, code, hmoments, hlast⟩ := h.rejected r hr
    exact ⟨(script.reader, state) :: earlier, last, left, code, by rw [moments, hmoments]; rfl,
      hlast⟩

/-- A last place at which the outcome of a command stops the run. -/
theorem transcribed_of_stops {reply : Traced σ Outcome}
    (h : script.reader.read.command ≠ exitCommand)
    (hcomment : isComment script.reader.read.command = false)
    (hreply : (x.apply state script.reader.read.command).complete nesting = reply)
    (hstops : reply.value.stops = true) :
    Transcribed x nesting s script state
      ⟨((reply.value.verdict script.reader.read.command).map fun error ↦
        ⟨s.previous, commands, warnings, error⟩, script.next), reply.state,
        s.turnTrace script reply⟩ [script.reader] := by
  refine ⟨.stops h hcomment hreply hstops, ?_, fun r hr ↦ ?_⟩
  · rw [prints_turnTrace, map_error_map_verdict, moments, moments, List.flatMap_singleton,
      printsAt_of_isDispatched ((isDispatched_eq_true_iff _).2 ⟨h, hcomment⟩), hreply]
  · rw [map_error_map_verdict] at hr
    cases houtcome : reply.value with
    | failed reason =>
      rw [houtcome] at hr
      cases hr
    | escaped e =>
      rw [houtcome] at hr
      cases hr
    | code code =>
      rw [houtcome] at hr
      exact ⟨[], script.reader, state, code, rfl, by rw [hreply, houtcome],
        Status.rejection?_ofCode_eq_some_iff.1 (Except.ok.inj hr)⟩

/-- **Every run is transcribed.** By induction on how it unfolds: a turn is one more place, and what
is printed in it stands before all the others. -/
theorem Unfolds.exists_transcribed
    (h : Unfolds x nesting s script commands warnings state ran) :
    ∃ places, Transcribed x nesting s script state ran places := by
  induction h with
  | @exit _ _ script state h =>
    refine ⟨[script.reader], .exit h, ?_, fun r hr ↦ by cases hr⟩
    rw [Trace.prints_map_logged, moments, moments, List.flatMap_singleton, printsAt, isShown, h]
    rfl
  | @comment _ _ script state _ h hcomment _ ih =>
    obtain ⟨places, hplaces⟩ := ih
    have hdispatched : isDispatched script.reader.read.command = false := by
      simp [isDispatched, hcomment]
    refine ⟨script.reader :: places, Transcribed.cons (by rwa [turnState_of_isComment hcomment])
      (.comment h hcomment hplaces.visits) ?_⟩
    rw [Trace.prints_append, Trace.prints_map_logged, List.nil_append, printsAt, hdispatched,
      isShown, hcomment, Bool.true_and]
    by_cases hlevel : x.verboseLevel state = s.echoLevel <;> simp [hlevel, Trace.prints]
  | stops h hcomment hreply hstops =>
    exact ⟨_, transcribed_of_stops h hcomment hreply hstops⟩
  | @goesOn _ _ script state reply _ h hcomment hreply hstops _ ih =>
    obtain ⟨places, hplaces⟩ := ih
    refine ⟨script.reader :: places,
      Transcribed.cons (by rwa [turnState_of_not_isComment h hcomment, hreply])
        (.goesOn h hcomment hreply hstops hplaces.visits) ?_⟩
    rw [prints_turnTrace, alerts_verdict_of_not_stops hstops,
      printsAt_of_isDispatched ((isDispatched_eq_true_iff _).2 ⟨h, hcomment⟩), hreply]
    exact List.append_nil _

/-- Where the script is kept, a run visits the first places of its reader, up to the command at
which it stops. -/
theorem Visits.kept (h : Visits x nesting script state places)
    (hx : x.Keeps nesting script state) :
    ∃ n, StopsFirst x nesting script.reader state n ∧ places = script.reader.places (n + 1) := by
  induction h with
  | exit h => exact ⟨0, stopsFirst_zero (.inl h), rfl⟩
  | @comment script state _ h hcomment _ ih =>
    obtain ⟨n, hn, rfl⟩ := ih (hx.comment h hcomment)
    refine ⟨n + 1, StopsFirst.succ ?_ (not_stopsAt_zero_of_not_stops h (.inl hcomment)),
      (script.reader.places_succ _).symm⟩
    rwa [turnState_of_isComment hcomment]
  | stops h hcomment hreply hstops =>
    subst hreply
    exact ⟨0, stopsFirst_zero (.inr ⟨hcomment, hstops⟩), rfl⟩
  | @goesOn script state _ _ h hcomment hreply hstops _ ih =>
    obtain ⟨hnext, hsame⟩ := hx.command h hcomment hreply hstops
    rw [hsame] at ih
    obtain ⟨n, hn, rfl⟩ := ih hnext
    refine ⟨n + 1, StopsFirst.succ ?_ (not_stopsAt_zero_of_not_stops h (.inr (by rwa [hreply]))),
      (script.reader.places_succ _).symm⟩
    rwa [turnState_of_not_isComment h hcomment, hreply]

/-- The comments that are read at some places are the comment lines that are taken there, in their
normal forms. -/
theorem filter_isComment_commands (places : List Reader) :
    (places.map fun r ↦ r.read.command).filter isComment =
      ((taken places).filter Line.isComment).map Line.normalize := by
  induction places with
  | nil => rfl
  | cons r places ih =>
    rw [taken_cons, List.filter_append, List.map_append, r.map_normalize_filter_isComment, ← ih,
      List.map_cons, List.filter_cons]
    split <;> rfl

/-- The **transcript** of a run: where it reads, and what it prints. -/
structure Transcript (x : Executor π σ) (nesting : Nesting π σ) (s : Session π)
    (script : Script.Opened) (state : σ)
    (ran : Traced σ (Except Escape (Summary π) × Session π)) (places : List Reader) : Prop where
  /-- The run reads at the places. -/
  visits : Visits x nesting script state places
  /-- Where the script is kept, these are the first places of its reader. -/
  kept : x.Keeps nesting script state →
    ∃ n, StopsFirst x nesting script.reader state n ∧ places = script.reader.places (n + 1)
  /-- The comments read are the comment lines taken, in their normal forms. -/
  comments : (places.map fun r ↦ r.read.command).filter isComment =
    ((taken places).filter Line.isComment).map Line.normalize
  /-- At each place the executor is as the commands read before it leave it. -/
  states : ∀ i : ℕ, (moments x nesting state places)[i]? = places[i]?.map fun r ↦
    (r, (x.applyAll nesting state (handedAt (places.take i))).state)
  /-- What is printed at each place comes in their order, and then the line of a refused
  parameter. -/
  prints : ran.trace.prints = (moments x nesting state places).flatMap (printsAt x nesting s) ++
    (alerts (ran.value.1.map Summary.error)).map (Prod.mk .alert)
  /-- Over a silent executor, the former are the comments that are shown, and in between what is
  printed by what its replies ask to be run. -/
  silent : x.Silent nesting → ran.trace.prints =
    ((moments x nesting state places).flatMap fun moment ↦
      (shownAt x s [moment]).map (Prod.mk .listing) ++
        (requestsAt x nesting moment).flatMap fun asked ↦
          (nesting asked.1 asked.2).trace.prints) ++
      (alerts (ran.value.1.map Summary.error)).map (Prod.mk .alert)
  /-- Over a mute executor there is nothing in between. -/
  mute : x.Mute nesting → ran.trace.prints =
    (shownAt x s (moments x nesting state places)).map (Prod.mk .listing) ++
      (alerts (ran.value.1.map Summary.error)).map (Prod.mk .alert)
  /-- There is a line only for a rejection. It is that of the command of the last place, by the code
  that it gets there, and only a refused parameter has the line, with the remainder of the code by a
  hundred for its index. -/
  alert : (∀ r, ran.value.1.map Summary.error ≠ .ok (some r)) ∧
      alerts (ran.value.1.map Summary.error) = [] ∨
    ∃ before last left code r, moments x nesting state places = before ++ [(last, left)] ∧
      ((x.apply left last.read.command).complete nesting).value = .code code ∧
      Rejection.Of last.read.command code r ∧ ran.value.1.map Summary.error = .ok (some r) ∧
      (alerts (ran.value.1.map Summary.error) =
        if r.cause = .illegalParameter then [Rejection.refusal last.read.command code] else []) ∧
      0 ≤ code % 100 ∧ code % 100 < 100

/-- What has been transcribed of a run of a session whose script is open. -/
theorem Transcribed.transcript (hs : s.stream = .opened script)
    (h : Transcribed x nesting s script state
      (runFrom x nesting s script 0 0 state) places) :
    Transcript x nesting s script state (s.run x nesting state) places := by
  have hprints := h.prints
  have hrejected := h.rejected
  have hrun := run_of_opened x nesting state hs
  have hvalue : (runFrom x nesting s script 0 0 state).value.1 =
      (s.run x nesting state).value.1 := by rw [hrun]
  have htrace : (runFrom x nesting s script 0 0 state).trace =
      (s.run x nesting state).trace := by rw [hrun]
  rw [hvalue] at hprints hrejected
  rw [htrace] at hprints
  refine ⟨h.visits, h.visits.kept, filter_isComment_commands places, getElem?_moments state places,
    hprints, fun hx ↦ ?_, fun hx ↦ ?_, ?_⟩
  · rw [hprints, List.flatMap_congr fun moment _ ↦ printsAt_of_silent hx moment]
  · rw [hprints, flatMap_printsAt_of_mute hx]
  · generalize (s.run x nesting state).value.1.map Summary.error = ending at hrejected ⊢
    rcases ending with e | ⟨- | r⟩
    · exact .inl ⟨fun _ ↦ nofun, rfl⟩
    · exact .inl ⟨fun _ ↦ nofun, rfl⟩
    · obtain ⟨before, last, left, code, hmoments, hcode, hof⟩ := hrejected r rfl
      refine .inr ⟨before, last, left, code, r, hmoments, hcode, hof, rfl, ?_,
        Int.emod_nonneg _ (by decide), Int.emod_lt_of_pos _ (by decide)⟩
      rw [alerts, hof.command_eq, hof.code_eq]

/-- **A run prints the comments that it reads at the echo level**, and in the end the line of a
parameter that is refused. The level is that of the executor as the commands before the comment have
left it. Replies print what they print in between; over a mute executor there is nothing else. A
console that is given shows all of it in this order, and without one the comments go to the standard
output and the line to the error output. -/
theorem run_transcript (x : Executor π σ) (nesting : Nesting π σ) (s : Session π)
    (script : Script.Opened) (state : σ) (hs : s.stream = .opened script) :
    let ran := s.run x nesting state
    ∃ places, Transcript x nesting s script state ran places ∧
      (x.Mute nesting →
        let comments := shownAt x s (moments x nesting state places)
        let lines := alerts (ran.value.1.map Summary.error)
        ∀ pictures width,
          Console.transcript pictures width ran.trace =
              (comments ++ lines).flatMap (Console.render pictures width) ∧
            Console.transcriptOn pictures width .out ran.trace =
              comments.flatMap (Console.render pictures width) ∧
            Console.transcriptOn pictures width .err ran.trace =
              lines.flatMap (Console.render pictures width)) := by
  intro ran
  obtain ⟨places, hplaces⟩ := (unfolds_runFrom x nesting s script 0 0 state).exists_transcribed
  have htranscript := hplaces.transcript hs
  exact ⟨places, htranscript, fun hx ↦ Console.shows_of_prints_eq (htranscript.mute hx)⟩

/-- A script with three comments, of which the second is read at the echo level, and a command that
is refused by a negative code before the third. -/
theorem run_transcript_louder :
    let x : Executor Unit (RehearsalState Unit) := .rehearsal
    let nesting : Nesting Unit (RehearsalState Unit) := fun _ state ↦ ⟨.error .tooDeep, state, []⟩
    let script : Script.Opened := .withReader (.atStart 0 [])
      (.ofText "# quiet\nspeak up\n# loud\nship it\n# late\n".toList)
    let s : Session Unit := ⟨.ofText "release".toList, (), 2, .opened script⟩
    let state : RehearsalState Unit := ⟨0, .ofCode 0,
      [("speak up".toList, [⟨some 2, none, none, none, 0⟩]),
        ("ship it".toList, [.ofCode (-1)])]⟩
    let ran := s.run x nesting state
    s.stream = .opened script ∧ x.Mute nesting ∧
      (∃ places, Transcript x nesting s script state ran places ∧
        shownAt x s (moments x nesting state places) = ["# loud".toList]) ∧
      ∀ pictures width,
        Console.transcriptOn pictures width .out ran.trace =
          Console.render pictures width "# loud".toList ∧
        Console.transcriptOn pictures width .err ran.trace =
          Console.render pictures width "(99) <ship it>".toList := by
  intro x nesting script s state ran
  have hmute : x.Mute nesting := (Executor.silent_rehearsal nesting).mute fun _ _ ↦ rfl
  have hkeeps : x.Keeps nesting script state :=
    Executor.keeps_of_octets?_eq_none (fun _ _ ↦ rfl) nesting script state
  have hstops : StopsFirst x nesting script.reader state 3 := by
    unfold StopsFirst StopsAt
    decide +kernel
  obtain ⟨places, htranscript, hshows⟩ := run_transcript x nesting s script state rfl
  obtain ⟨n, hn, rfl⟩ := htranscript.kept hkeeps
  obtain rfl := hn.eq hstops
  have hshown : shownAt x s (moments x nesting state (script.reader.places 4)) =
      ["# loud".toList] := by
    decide +kernel
  have hlines : alerts (ran.value.1.map Summary.error) = ["(99) <ship it>".toList] := by
    obtain ⟨m, hcourse⟩ := exists_course hkeeps s 0 0
    obtain rfl := hcourse.stops.eq hstops
    rw [show ran = _ from run_of_opened x nesting state rfl, hcourse.result,
      map_error_map_verdict]
    decide +kernel
  refine ⟨rfl, hmute, ⟨_, htranscript, hshown⟩, fun pictures width ↦ ?_⟩
  obtain ⟨-, hout, herr⟩ := hshows hmute pictures width
  rw [hshown, List.flatMap_singleton] at hout
  rw [hlines, List.flatMap_singleton] at herr
  exact ⟨hout, herr⟩

end Session

end CommandScript
