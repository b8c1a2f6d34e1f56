import CommandScript.Proofs.Course

/-!
# Judgements

What comes of dispatching one command depends on the outcome of the command alone. `Judged` is the
whole of it, with one constructor for each case: what the outcome is, what the dispatch comes to,
and what is logged and printed about it. Two cases are rejections, by whether a parameter is
refused, and which rejection a code makes is told by `Rejection.Of`.

The codes are all integers. The index of a refused parameter is the remainder of the code by a
hundred that is not negative, also below zero, and it is the same in the status, in the rejection
and in the printed line (`Rejection.Of.index`).

A dispatcher has no memory: of commands that are dispatched one after another each is judged by its
own reply (`dispatchAll_judged`).
-/
namespace CommandScript

variable {π σ : Type}

/-! ### What a code makes of a command -/

namespace Rejection

/-- The line that names the parameter of a command that a code refuses. -/
def refusal (command : Text) (code : Int) : Text :=
  "(".toList ++ (toString (code % 100)).toList ++ ") <".toList ++ command ++ ">".toList

/-- The text about a command that a code rejects. -/
def complaint (command : Text) (code : Int) : Text :=
  if code = 100 then "Command not found: ".toList ++ command
  else if code = 200 then "Illegal application state: ".toList ++ command
  else "Illegal parameter: ".toList ++ command

/-- The rejection **of** a command that a code makes. The code of a success makes none. -/
inductive Of (command : Text) : Int → Rejection → Prop
  /-- The command is not known. -/
  | notFound : Of command 100 ⟨.commandNotFound, command, ⟨100, .notFound, none⟩⟩
  /-- The command is not allowed as things stand. -/
  | illegalState :
      Of command 200 ⟨.illegalApplicationState, command, ⟨200, .illegalState, none⟩⟩
  /-- Any other code that is no success refuses a parameter. -/
  | illegalParameter {code : Int} (hsuccess : code ≠ 0) (hnotFound : code ≠ 100)
      (hillegalState : code ≠ 200) :
      Of command code
        ⟨.illegalParameter, command, ⟨code, .illegalParameter, some (code % 100)⟩⟩

variable {command : Text} {code : Int} {r : Rejection}

/-- A rejection bears the command and the code by which it was made. -/
theorem Of.command_eq (h : Of command code r) : r.command = command := by
  cases h <;> rfl

theorem Of.code_eq (h : Of command code r) : r.status.code = code := by
  cases h <;> rfl

theorem Of.message_eq (h : Of command code r) : r.message = complaint command code := by
  cases h with
  | notFound => rfl
  | illegalState => rfl
  | illegalParameter _ hnotFound hillegalState =>
    rw [complaint, if_neg hnotFound, if_neg hillegalState]
    rfl

theorem Of.ne_success (h : Of command code r) : code ≠ 0 := by
  cases h with
  | notFound => decide
  | illegalState => decide
  | illegalParameter hsuccess _ _ => exact hsuccess

/-- What refuses no parameter is one of two codes. -/
theorem Of.cause_eq_illegalParameter_iff (h : Of command code r) :
    r.cause = .illegalParameter ↔ code ≠ 100 ∧ code ≠ 200 := by
  cases h with
  | notFound => simp
  | illegalState => simp
  | illegalParameter _ hnotFound hillegalState => simp [hnotFound, hillegalState]

theorem Of.cause_eq_commandNotFound_iff (h : Of command code r) :
    r.cause = .commandNotFound ↔ code = 100 := by
  cases h with
  | notFound => simp
  | illegalState => simp
  | illegalParameter _ hnotFound _ => simp [hnotFound]

theorem Of.cause_eq_illegalApplicationState_iff (h : Of command code r) :
    r.cause = .illegalApplicationState ↔ code = 200 := by
  cases h with
  | notFound => simp
  | illegalState => simp
  | illegalParameter _ _ hillegalState => simp [hillegalState]

/-- **The index of a refused parameter** is the same wherever it is told, and lies below a
hundred. -/
theorem Of.index (h : Of command code r) (hcause : r.cause = .illegalParameter) :
    r.status.parameterIndex = some (code % 100) ∧ r.parameterIndex = code % 100 ∧
      Dispatched.refusedParameter r = refusal command code ∧ 0 ≤ code % 100 ∧ code % 100 < 100 := by
  cases h with
  | notFound => cases hcause
  | illegalState => cases hcause
  | illegalParameter =>
    exact ⟨rfl, rfl, rfl, Int.emod_nonneg _ (by decide), Int.emod_lt_of_pos _ (by decide)⟩

end Rejection

/-- **Which rejection a code makes.** -/
theorem Status.rejection?_ofCode_eq_some_iff {code : Int} {command : Text} {r : Rejection} :
    (ofCode code).rejection? command = some r ↔ Rejection.Of command code r := by
  constructor
  · intro h
    rw [ofCode] at h
    split at h
    · cases h
    · next hsuccess =>
      split at h
      · next hnotFound =>
        cases h
        rw [hnotFound]
        exact .notFound
      · next hnotFound =>
        split at h
        · next hillegalState =>
          cases h
          rw [hillegalState]
          exact .illegalState
        · next hillegalState =>
          cases h
          exact .illegalParameter hsuccess hnotFound hillegalState
  · intro h
    cases h with
    | notFound => rfl
    | illegalState => rfl
    | illegalParameter hsuccess hnotFound hillegalState =>
      have hsuccess : code ≠ successCode := hsuccess
      have hnotFound : code ≠ notFoundCode := hnotFound
      have hillegalState : code ≠ illegalStateCode := hillegalState
      rw [ofCode, if_neg hsuccess, if_neg hnotFound, if_neg hillegalState]
      rfl

/-- A code makes one rejection of a command at most. -/
theorem Rejection.Of.eq {code : Int} {command : Text} {r r' : Rejection} (h : Of command code r)
    (h' : Of command code r') : r = r' := by
  rw [← Status.rejection?_ofCode_eq_some_iff] at h h'
  exact Option.some.inj (h.symm.trans h')

/-! ### What an outcome makes of a dispatch -/

/-- How an outcome of a command is **judged**: what the dispatch comes to, and what is logged and
printed about it. -/
inductive Judged (command : Text) : Outcome → Dispatched → Trace → Prop
  /-- A success gives its status, with one record. -/
  | accepted :
      Judged command (.code 0) (.accepted ⟨0, .succeeded, none⟩)
        [.logged (.plain .debug ("command ok: ".toList ++ command))]
  /-- A failure without a code is passed on with the command and its reason, with one record. -/
  | failed {reason : Text} :
      Judged command (.failed reason) (.failed command reason)
        [.logged (.plain .error
          ("executor failed on <".toList ++ command ++ ">: ".toList ++ reason))]
  /-- A rejection that refuses no parameter, with one record of what it says. -/
  | rejected {code : Int} {r : Rejection} (h : Rejection.Of command code r)
      (hcause : r.cause ≠ .illegalParameter) :
      Judged command (.code code) (.rejected r) [.logged (.plain .error r.message)]
  /-- A rejection that refuses a parameter, with such a record and a line that names it. -/
  | refused {code : Int} {r : Rejection} (h : Rejection.Of command code r)
      (hcause : r.cause = .illegalParameter) :
      Judged command (.code code) (.rejected r)
        [.logged (.plain .error r.message), .printed .alert (Rejection.refusal command code)]
  /-- Anything else passes, and nothing is done about it. -/
  | escaped {e : Escape} : Judged command (.escaped e) (.escaped e) []

/-- The judgement of an outcome, and what is done about it. -/
theorem judged_ofOutcome (command : Text) (outcome : Outcome) :
    Judged command outcome (Dispatched.ofOutcome command outcome)
      ((Dispatched.ofOutcome command outcome).events command) := by
  cases outcome with
  | failed reason => exact .failed
  | escaped e => exact .escaped
  | code code =>
    rw [Dispatched.ofOutcome]
    cases hrejection : (Status.ofCode code).rejection? command with
    | none =>
      obtain rfl := (Status.rejection?_ofCode_eq_none_iff code command).1 hrejection
      exact .accepted
    | some r =>
      have hof := Status.rejection?_ofCode_eq_some_iff.1 hrejection
      simp only [Dispatched.events]
      split
      · next hcause =>
        rw [(hof.index hcause).2.2.1]
        exact .refused hof hcause
      · next hcause => exact .rejected hof hcause

namespace Judged

variable {command : Text} {outcome : Outcome} {value : Dispatched} {own : Trace}

/-- A judgement hands nothing over. -/
theorem commands_eq_nil (h : Judged command outcome value own) : own.commands = [] := by
  cases h <;> rfl

theorem accepted_iff (h : Judged command outcome value own) :
    (∃ status, value = .accepted status) ↔ outcome = .code 0 := by
  cases h with
  | accepted => simp
  | failed => simp
  | rejected hof _ => simpa using hof.ne_success
  | refused hof _ => simpa using hof.ne_success
  | escaped => simp

theorem failed_iff (h : Judged command outcome value own) (failing reason : Text) :
    value = .failed failing reason ↔ failing = command ∧ outcome = .failed reason := by
  cases h <;> simp [eq_comm]

theorem escaped_iff (h : Judged command outcome value own) (e : Escape) :
    value = .escaped e ↔ outcome = .escaped e := by
  cases h <;> simp

theorem rejected_iff (h : Judged command outcome value own) (r : Rejection) :
    value = .rejected r ↔ ∃ code, outcome = .code code ∧ Rejection.Of command code r := by
  cases h with
  | accepted =>
    constructor
    · intro hvalue
      cases hvalue
    · rintro ⟨_, ⟨⟩, hof⟩
      exact absurd rfl hof.ne_success
  | failed => simp
  | @rejected code r' hof _ | @refused code r' hof _ =>
    constructor
    · intro hvalue
      cases hvalue
      exact ⟨code, rfl, hof⟩
    · rintro ⟨_, ⟨⟩, hof'⟩
      rw [hof.eq hof']
  | escaped => simp

end Judged

/-! ### Dispatching one command after another -/

/-- What the **dispatch** of a command is, given the reply to the command. -/
structure Dispatches (command : Text) (reply : Traced σ Outcome) (deed : Traced σ Dispatched) :
    Prop where
  /-- The executor is handed the command, once and as it is, besides what the reply hands over. -/
  handed : deed.trace.commands = command :: reply.trace.commands
  /-- It is left as the reply leaves it. -/
  left : deed.state = reply.state
  /-- Behind the reply its outcome is judged, and nothing else is done. -/
  judged : ∃ own, deed.trace = .applied command :: reply.trace ++ own ∧
    Judged command reply.value deed.value own
  /-- The command is accepted when the code is zero. -/
  accepted_iff : (∃ status, deed.value = .accepted status) ↔ reply.value = .code 0
  /-- A failure is passed on, of this command and with its reason, when the executor reports it. -/
  failed_iff : ∀ failing reason, deed.value = .failed failing reason ↔
    failing = command ∧ reply.value = .failed reason
  /-- Anything else passes when it escapes from the executor. -/
  escaped_iff : ∀ e, deed.value = .escaped e ↔ reply.value = .escaped e
  /-- The command is rejected when the code is another one, which makes the rejection. -/
  rejected_iff : ∀ r, deed.value = .rejected r ↔
    ∃ code, reply.value = .code code ∧ Rejection.Of command code r
  /-- The rejection bears the command and the code, and the code decides which rejection it is. -/
  cause : ∀ code r, reply.value = .code code → deed.value = .rejected r →
    r.command = command ∧ r.status.code = code ∧
      (r.cause = .commandNotFound ↔ code = 100) ∧
      (r.cause = .illegalApplicationState ↔ code = 200) ∧
      (r.cause = .illegalParameter ↔ code ≠ 100 ∧ code ≠ 200)
  /-- Whatever the code, the index of a refused parameter is everywhere the same. -/
  index : ∀ code r, reply.value = .code code → deed.value = .rejected r →
    r.cause = .illegalParameter →
      r.status.parameterIndex = some (code % 100) ∧ r.parameterIndex = code % 100 ∧
        0 ≤ code % 100 ∧ code % 100 < 100
  /-- The error in which a failure ends names the command and the reason. -/
  failedMessage : ∀ reason, reply.value = .failed reason →
    deed.value.message? = some (command ++ ": ".toList ++ reason)
  /-- The error in which a rejection ends says what is logged, which the code and the command
  tell. -/
  rejectedMessage : ∀ code r, reply.value = .code code → deed.value = .rejected r →
    deed.value.message? = some r.message ∧ r.message = Rejection.complaint command code

/-- A single dispatch. -/
theorem Executor.dispatches (x : Executor π σ) (nesting : Nesting π σ) (command : Text)
    (state : σ) :
    Dispatches command ((x.apply state command).complete nesting)
      (x.dispatch nesting command state) := by
  have hjudged := judged_ofOutcome command ((x.apply state command).complete nesting).value
  have hof {code : Int} {r : Rejection}
      (hcode : ((x.apply state command).complete nesting).value = .code code)
      (hrejected : (x.dispatch nesting command state).value = .rejected r) :
      Rejection.Of command code r := by
    obtain ⟨code', hcode', hof⟩ := (hjudged.rejected_iff r).1 hrejected
    obtain rfl : code = code' := Outcome.code.inj (hcode.symm.trans hcode')
    exact hof
  refine ⟨?_, rfl, ⟨_, rfl, hjudged⟩, hjudged.accepted_iff, hjudged.failed_iff, hjudged.escaped_iff,
    hjudged.rejected_iff, fun code r hcode hrejected ↦ ?_, fun code r hcode hrejected hcause ↦ ?_,
    fun reason hreason ↦ ?_, fun code r hcode hrejected ↦ ?_⟩
  · rw [dispatch, Trace.commands_append, Trace.commands_applied_cons, hjudged.commands_eq_nil,
      List.append_nil]
  · have hof := hof hcode hrejected
    exact ⟨hof.command_eq, hof.code_eq, hof.cause_eq_commandNotFound_iff,
      hof.cause_eq_illegalApplicationState_iff, hof.cause_eq_illegalParameter_iff⟩
  · obtain ⟨hstatus, hindex, -, hbounds⟩ := (hof hcode hrejected).index hcause
    exact ⟨hstatus, hindex, hbounds⟩
  · have hfailed : (x.dispatch nesting command state).value = .failed command reason :=
      (hjudged.failed_iff command reason).2 ⟨rfl, hreason⟩
    rw [hfailed]
    rfl
  · rw [hrejected]
    exact ⟨rfl, (hof hcode hrejected).message_eq⟩

theorem Executor.length_dispatchAll (x : Executor π σ) (nesting : Nesting π σ) (state : σ)
    (commands : List Text) : (x.dispatchAll nesting state commands).length = commands.length := by
  induction commands generalizing state with
  | nil => rfl
  | cons command commands ih => rw [dispatchAll, List.length_cons, List.length_cons, ih]

/-- **Each command is judged by its own reply**, whatever has been dispatched before it: it is
accepted, a failure of it is passed on, it is rejected, or something escapes, and the outcome alone
decides which. The reply is that in the state after the replies to the commands before. -/
theorem Executor.dispatchAll_judged (x : Executor π σ) (nesting : Nesting π σ) (state : σ)
    (commands : List Text) :
    (x.dispatchAll nesting state commands).length = commands.length ∧
      ∀ i command, commands[i]? = some command →
        ∃ deed, (x.dispatchAll nesting state commands)[i]? = some deed ∧
          Dispatches command
            ((x.apply (x.applyAll nesting state (commands.take i)).state command).complete
              nesting) deed := by
  refine ⟨x.length_dispatchAll nesting state commands, fun i command hcommand ↦ ?_⟩
  induction commands generalizing i state with
  | nil => simp at hcommand
  | cons first commands ih =>
    cases i with
    | zero =>
      obtain rfl : first = command := Option.some.inj hcommand
      exact ⟨x.dispatch nesting first state, rfl, x.dispatches nesting first state⟩
    | succ i => exact ih (x.dispatch nesting first state).state i hcommand

/-- Commands of which one is refused by a negative code, after a success and a failure that is
reported, and before one that is not known. -/
theorem Executor.dispatchAll_judged_negative :
    let x : Executor Unit (RehearsalState Unit) := .rehearsal
    let nesting : Nesting Unit (RehearsalState Unit) := fun _ state ↦ ⟨.error .tooDeep, state, []⟩
    let state : RehearsalState Unit := ⟨0, .ofCode 0,
      [("test".toList, [⟨none, some "flaky".toList, none, none, 0⟩]),
        ("ship it".toList, [.ofCode (-1)]), ("tidy".toList, [.ofCode 100])]⟩
    let commands := ["build".toList, "test".toList, "ship it".toList, "tidy".toList]
    commands[2]? = some "ship it".toList ∧
      ∃ deed, (x.dispatchAll nesting state commands)[2]? = some deed ∧
        Dispatches "ship it".toList
          ((x.apply (x.applyAll nesting state (commands.take 2)).state
            "ship it".toList).complete nesting) deed ∧
        deed.value = .rejected
          ⟨.illegalParameter, "ship it".toList, ⟨-1, .illegalParameter, some 99⟩⟩ := by
  intro x nesting state commands
  have hcommand : commands[2]? = some "ship it".toList := rfl
  obtain ⟨deed, hdeed, hdispatches⟩ :=
    (x.dispatchAll_judged nesting state commands).2 2 "ship it".toList hcommand
  refine ⟨hcommand, deed, hdeed, hdispatches, ?_⟩
  have hcode : ((x.apply (x.applyAll nesting state (commands.take 2)).state
      "ship it".toList).complete nesting).value = .code (-1) := by decide
  exact (hdispatches.rejected_iff _).2
    ⟨-1, hcode, .illegalParameter (by decide) (by decide) (by decide)⟩

end CommandScript
