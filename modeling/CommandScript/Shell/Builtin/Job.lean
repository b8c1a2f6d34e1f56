import CommandScript.Shell.Builtin.Usage
import CommandScript.Shell.Subshell

/-!
# Commands for jobs and signals

Listing the commands that run beside the shell, waiting for them, sending signals, and saying what
is to be run when a signal comes. A job runs no later than when something waits for it; one that
gets a signal before that does not run at all.
-/
namespace CommandScript.Shell

/-! ### Jobs -/

/-- The jobs that can be listed, the latest first. -/
def State.listedJobs (s : State) : List Job :=
  s.jobs.filter fun job ↦ job.status.isNone && !job.disowned

/-- The job that a text names after a percent sign. -/
def State.jobOf? (s : State) (spec : Text) : Option Job :=
  let listed := s.listedJobs
  match spec with
  | [] => listed.head?
  | ['+'] => listed.head?
  | ['%'] => listed.head?
  | ['-'] => listed[1]?.or listed.head?
  | '?' :: part => listed.find? fun job ↦
      (List.range (job.text.length + 1)).any fun i ↦ part.isPrefixOf (job.text.drop i)
  | spec =>
    match naturalNumber? spec with
    | some n => listed.find? fun job ↦ job.number = n
    | none => listed.find? fun job ↦ spec.isPrefixOf job.text

/-- The line that shows a job. -/
def jobLine (s : State) (long : Bool) (job : Job) : Text :=
  let listed := s.listedJobs.map Job.number
  let mark := if listed.head? = some job.number then '+'
    else if listed[1]? = some job.number then '-' else ' '
  let process : Text := if long then shown job.process ++ [' '] else []
  if s.isStandard then
    '[' :: shown job.number ++ "] ".toList ++ [mark, ' '] ++ process ++ "Running".toList ++
      List.replicate 20 ' '
  else
    '[' :: shown job.number ++ [']', mark, ' ', ' '] ++ process ++
      "Running                 ".toList ++ job.text ++ " &".toList

/-- Refuses a job that is not there. -/
def refuseJob (command : String) (spec : Text) : Act Nat :=
  failAs command 1 (spec ++ ": no such job".toList)

/-- The command `jobs`. -/
def listJobs : Utility := fun arguments ↦
  withFlags "jobs" "lnprs" "" arguments fun f ↦ do
    let s ← get
    let tellJob (job : Job) : Act Unit :=
      putLine (if f.has 'p' then shown job.process else jobLine s (f.has 'l') job)
    if f.others.isEmpty then
      if !f.has 's' ∧ !f.has 'n' then
        for job in s.listedJobs.reverse do tellJob job
      return 0
    else
      let mut status := 0
      for spec in f.others do
        match s.jobOf? (spec.dropWhile (· = '%')) with
        | some job => tellJob job
        | none => status ← refuseJob "jobs" spec
      return status

/-- The answer of the commands that move jobs to the front or to the back. -/
def withoutControl (command : String) : Utility := fun _ ↦ do
  if (← get).isStandard then failAs command 2 "No current job".toList
  else failAs command 1 "no job control".toList

/-- The command `disown`. -/
def disownJobs : Utility := fun arguments ↦
  withFlags "disown" "ahr" "" arguments fun f ↦ do
    let s ← get
    let disown (numbers : List Nat) : Act Unit := modify fun s ↦
      { s with jobs := s.jobs.map fun job ↦
          if numbers.contains job.number then { job with disowned := true } else job }
    if f.has 'a' ∨ f.has 'r' then
      disown (s.listedJobs.map Job.number)
      return 0
    else
      let specs := if f.others.isEmpty then [[]] else f.others
      let mut status := 0
      for spec in specs do
        match (s.jobOf? (spec.dropWhile (· = '%'))).or
            (s.listedJobs.find? fun job ↦ some job.process = naturalNumber? spec) with
        | some job => disown [job.number]
        | none =>
          status ← refuseJob "disown" (if spec.isEmpty then "current".toList else spec)
      return status

section Waiting

variable (run : Runner)

/-- Waits for one job, whose status is given. -/
def waitForJob (job : Job) : Act Nat := do
  runJob run job
  return ((((← get).jobs.find? fun j ↦ j.process = job.process).bind Job.status).getD 0)

/-- Waits for what an argument of `wait` means, and gives its status. -/
def waitFor (spec : Text) : Act Nat := do
  let s ← get
  match spec with
  | '%' :: name =>
    match s.jobOf? name with
    | some job => waitForJob run job
    | none =>
      if s.isStandard then failAs "wait" 2 ("No such job: ".toList ++ spec)
      else failAs "wait" 127 (spec ++ ": no such job".toList)
  | spec =>
    match naturalNumber? spec with
    | none =>
      if s.isStandard then failAs "wait" 2 ("Illegal number: ".toList ++ spec)
      else failAs "wait" 1 (citedText spec ++ ": not a pid or valid job spec".toList)
    | some n =>
      match s.jobs.find? fun job ↦ job.process = n && !job.inherited with
      | some job => waitForJob run job
      | none =>
        runReaders run fun r ↦ r.self.process = n
        if let some status := (← get).concluded.lookup n then return status
        if s.isStandard then return 127
        failAs "wait" 127 ("pid ".toList ++ spec ++ " is not a child of this shell".toList)

/-- The command `wait`. -/
def waitForJobs : Utility := fun arguments ↦
  withFlags "wait" "fn" "p" arguments fun f ↦ do
    if f.has 'n' then
      match (← get).listedJobs.getLast? with
      | none => return 127
      | some job =>
        let status ← waitForJob run job
        if let some name := f.value? 'p' then assign name (shown job.process)
        return status
    else if f.others.isEmpty then
      runJobs run
      let process := (← get).process
      runReaders run fun r ↦ r.self.around.head? = some process
      modify fun s ↦ { s with jobs := [] }
      return 0
    else
      let mut status := 0
      for spec in f.others do status ← waitFor run spec
      return status

/-! ### Signals -/

/-- The table of all signals, five in a row. -/
def signalTable : Text :=
  let numbers := (List.range 65).filter fun n ↦ 0 < n && !(n = 32 || n = 33)
  let cell (n : Nat) : Text := padStart 2 (shown n) ++ ") ".toList ++ Signal.fullName n
  let isLast (n i : Nat) : Bool := (i + 1) % 5 = 0 || n = 64
  numbers.zipIdx.flatMap fun (n, i) ↦
    cell n ++ if n = 64 then ['\t', '\n'] else if isLast n i then ['\n'] else ['\t']

/-- Refuses a signal that there is not. -/
def refuseSignal (command : String) (t : Text) : Act Nat := do
  if (← get).isStandard ∧ command = "trap" then
    tellLine ("trap: ".toList ++ t ++ ": bad trap".toList)
    return 1
  else failAs command 1 (t ++ ": invalid signal specification".toList)

/-- Tells the names of numbers of signals, or the numbers of names. -/
def tellSignals (specs : List Text) : Act Nat := do
  if specs.isEmpty then
    put signalTable
    return 0
  else
    let mut status := 0
    for t in specs do
      match naturalNumber? t with
      | some n =>
        let n := if 128 < n then n - 128 else n
        if n < 65 ∧ (Signal.name? n).isSome then putLine (Signal.name n)
        else status ← refuseSignal "kill" t
      | none =>
        match (Signal.number? t).filter (· < 65) with
        | some n => putLine (shown n)
        | none => status ← refuseSignal "kill" t
    return status

/-- The signal of `kill` and what it is for, or what is wrong with the arguments. -/
def killArguments : Option Nat → List Text → Except (Text × Bool) (Nat × List Text)
  | signal, ['-', '-'] :: rest => .ok (signal.getD Signal.usual, rest)
  | signal, ('-' :: c :: t) :: rest =>
    if signal.isSome then .ok (signal.getD Signal.usual, ('-' :: c :: t) :: rest)
    else
      let named (t : Text) : Except (Text × Bool) Nat :=
        match (Signal.number? t).filter (· < 65) with
        | some n => .ok n
        | none => .error (t, true)
      if (c = 's' ∨ c = 'n') ∧ t.isEmpty then
        match rest with
        | t :: rest =>
          match named t with
          | .ok n => killArguments (some n) rest
          | .error e => .error e
        | [] => .error ('-' :: c :: ": option requires an argument".toList, false)
      else match named (c :: t) with
        | .ok n => killArguments (some n) rest
        | .error e => .error e
  | signal, rest => .ok (signal.getD Signal.usual, rest)

/-- The number of the process that has been there before all others. -/
def firstProcess : Nat := 1

/-- Sends a signal to a process, and gives whether there is one. -/
def sendSignal (signal process : Nat) : Act Bool := do
  let s ← get
  if process = s.process then
    heed run signal
    return true
  else if s.around.contains process then
    set { s with signals := s.signals ++ [(process, signal)] }
    return true
  else
    match s.jobs.find? fun job ↦ job.process = process && job.status.isNone with
    | some _ =>
      let ended (j : Job) : Job :=
        if j.process = process then { j with status := some (signalStatus signal) } else j
      if !Signal.harmless.contains signal then set { s with jobs := s.jobs.map ended }
      return true
    | none => return process = firstProcess

/-- Sends a signal to what an argument of `kill` names, and gives whether there is such a thing. -/
def sendTo (signal : Nat) (t : Text) : Act Bool := do
  let s ← get
  match t with
  | '%' :: name =>
    match s.jobOf? name with
    | some job => sendSignal run signal job.process
    | none =>
      let _ ← refuseJob "kill" t
      return false
  | t =>
    let digits := if t.head? = some '-' then t.drop 1 else t
    match naturalNumber? digits with
    | none =>
      complain ("kill: ".toList ++ t ++ ": arguments must be process or job IDs".toList)
      return false
    | some n =>
      if ← sendSignal run signal n then return true
      else
        complain ("kill: (".toList ++ t ++ ") - No such process".toList)
        return false

/-- Tells the names of the signals in the standard, or that of one number. -/
def tellStandardSignals (specs : List Text) : Act Nat := do
  let shownName (n : Nat) : Text := if n = 0 ∨ n = 16 ∨ (Signal.name? n).isNone then shown n
    else Signal.name n
  match specs with
  | [] =>
    put (ofLines ((List.range 65).map shownName))
    return 0
  | t :: _ =>
    match naturalNumber? t with
    | none => failAs "kill" 2 ("Illegal number: ".toList ++ t)
    | some given =>
      let n := if 128 < given then given - 128 else given
      if n < 65 then
        putLine (shownName n)
        return 0
      else failAs "kill" 2 ("invalid signal number or exit status: ".toList ++ t)

/-- Sends a signal in the standard to what an argument names. -/
def sendStandard (signal : Nat) (t : Text) : Act Nat := do
  let reach (process : Nat) : Act Nat := do
    if ← sendSignal run signal process then return 0
    else failAs "kill" 1 "No such process\n".toList
  match t, naturalNumber? (if t.head? = some '-' then t.drop 1 else t) with
  | '%' :: name, _ =>
    match (← get).jobOf? name with
    | some job => reach job.process
    | none => failAs "kill" 2 ("No such job: ".toList ++ t)
  | _, some n => reach n
  | _, none => failAs "kill" 2 ("Illegal number: ".toList ++ t)

/-- The command `kill` of the standard. -/
def sendStandardSignals : Utility := fun arguments ↦ do
  let refuseUse : Act Nat := failAs "kill" 2
    "Usage: kill [-s sigspec | -signum | -sigspec] [pid | job]... or\nkill -l [exitstatus]".toList
  let sendTo (signal : Nat) (targets : List Text) : Act Nat := do
    if targets.isEmpty then refuseUse
    else return (← targets.mapM (sendStandard run signal)).foldl max 0
  let signal? (t : Text) : Option Nat := (Signal.number? t).filter (· < 65)
  match arguments with
  | ['-', 'l'] :: specs => tellStandardSignals specs
  | [['-', 's']] => failAs "kill" 2 "No arg for -s option".toList
  | ['-', 's'] :: t :: targets =>
    match signal? t with
    | some n => sendTo n targets
    | none => failAs "kill" 2 ("invalid signal number or name: ".toList ++ t)
  | ['-', '-'] :: targets => sendTo Signal.usual targets
  | ('-' :: c :: t) :: targets =>
    match signal? (c :: t) with
    | some n => sendTo n targets
    | none => failAs "kill" 2 ("Illegal option -".toList ++ [c])
  | targets => sendTo Signal.usual targets

/-- The command `kill`. -/
def sendSignals : Utility := fun arguments ↦ do
  if (← get).isStandard then return ← sendStandardSignals run arguments
  match arguments with
  | ['-', 'l'] :: specs => tellSignals specs
  | ['-', 'L'] :: specs => tellSignals specs
  | _ =>
    match killArguments none arguments with
    | .error (t, isSignal) =>
      if isSignal then refuseSignal "kill" t else failAs "kill" 1 t
    | .ok (_, []) => tellUsage "kill"
    | .ok (signal, targets) =>
      let sent ← targets.mapM (sendTo run signal)
      return if sent.any (·) then 0 else 1

end Waiting

/-- The lines that list what the shell has for signals. -/
def trapLines (s : State) (signals : List Nat) : Text :=
  let traps := if s.formerTraps.isEmpty then s.traps else s.formerTraps
  signals.flatMap fun n ↦
    match traps.lookup n with
    | some source =>
      "trap -- ".toList ++ singleQuoted source ++
        ' ' :: (if s.isStandard then Signal.name n else Signal.fullName n) ++ ['\n']
    | none => []

/-- Keeps a source, or nothing, to be run when signals come that are given by their names. -/
def keepTraps (source : Option Text) (names : List Text) : Act Nat := do
  let mut status := 0
  for t in names do
    match Signal.number? t with
    | some n => modify fun s ↦ { s with
        traps := (source.map fun t ↦ (n, t)).toList ++ s.traps.filter fun e ↦ e.1 != n
        formerTraps := [] }
    | none => status ← refuseSignal "trap" t
  return status

/-- The command `trap`. -/
def setTraps : Utility := fun arguments ↦
  withFlags "trap" (if (arguments.head?.map List.length) = some 1 then "" else "lp") "" arguments
      fun f ↦ do
    let s ← get
    if f.has 'l' then
      put signalTable
      return 0
    else match f.others with
      | [] =>
        put (trapLines s Signal.every)
        return 0
      | first :: rest =>
        if f.has 'p' then
          let mut status := 0
          for t in f.others do
            match Signal.number? t with
            | some n => put (trapLines s [n])
            | none => status ← refuseSignal "trap" t
          return status
        else
          let isSignal := (Signal.number? first).isSome
          if isSignal ∧ (isDigits first ∨ rest.isEmpty) then keepTraps none f.others
          else if rest.isEmpty then
            if s.isStandard then refuseSignal "trap" first else tellUsage "trap"
          else keepTraps (if first = ['-'] then none else some first) rest

/-- The command `times`. -/
def tellTimes : Utility := fun _ ↦ do
  put (if (← get).isStandard then "0m0.000000s 0m0.000000s\n0m0.000000s 0m0.000000s\n".toList
    else "0m0.000s 0m0.000s\n0m0.000s 0m0.000s\n".toList)
  return 0

/-- The command `suspend`. -/
def suspendShell : Utility := fun _ ↦
  failAs "suspend" 1 "cannot suspend: no job control".toList

/-- The command `logout`. -/
def logOut : Utility := fun _ ↦
  failAs "logout" 1 "not login shell: use \x60exit'".toList

end CommandScript.Shell
