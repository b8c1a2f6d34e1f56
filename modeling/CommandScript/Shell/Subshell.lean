import CommandScript.Shell.Binding
import CommandScript.Shell.Complaint
import CommandScript.Shell.Printer

/-!
# Sources and shells within shells

A source is read line by line: a line is run before the next one is read, so that a syntax error
stops only what comes after it. A shell that is made from another one has a copy of all that belongs
to that, runs something, and ends; the files and what its channels lead to are shared. Everything
here is given the function that runs trees.
-/
namespace CommandScript.Shell

section Sources

variable (run : Runner)

/-! ### Sources -/

/-- Tells what is wrong with a source. Words for the source come before each line of it. -/
def tellFault (voice source : Text) (lines : Nat) (f : SyntaxFault) : Act Unit := do
  let s ← get
  let told := f.complaint s.dialect s.within source lines
  let status := match f.flaw with
    | .condition _ atEnd => if atEnd then 2 else 0
    | _ => f.status
  tell (told.flatMap fun t ↦ voice ++ t ++ ['\n'])
  modify fun s ↦ { s with status := status }
  if s.isStandard then
    modify fun s ↦ { s with status := 2 }
    throw .aborts

/-- Lets the rest of a line be dropped, in a shell that is not made from another one. -/
def dropLine (leave : Leave) : Act Unit := do
  let s ← get
  match leave with
  | .drops =>
    if s.subshells = 0 then set { s with status := 1, statuses := [1] } else throw .drops
  | .valueless =>
    if s.subshells = 0 then set { s with status := 1, statuses := [1] } else throw .drops
  | leave => throw leave

/-- Runs what is left of a source, line by line. -/
def runLines (place : Place) (voice whole : Text) (lines : Nat) : Nat → Text → Act Unit
  | 0, _ => return
  | n + 1, rest => do
    let s ← get
    match readLine s.rules lines rest with
    | .error f =>
      tellFault voice whole lines f
      match f.flaw with
      | .condition _ false =>
        let after := (f.place.dropWhile (· != '\n')).drop 1
        if !after.isEmpty then runLines place voice whole lines n after
      | _ => pure ()
    | .ok none => return
    | .ok (some (tree, after)) =>
      if s.isOn .verbose then tell (before rest after)
      let isLast := after.all isSpace
      let ends := (before rest after).getLast? = some '\n'
      let line := Parser.lineOf lines after - if ends then 1 else 0
      let result ← attempt (atLine line do run { place with final := place.final && isLast } tree)
      match result with
      | .ok () => pure ()
      | .error leave => dropLine leave
      runLines place voice whole lines n after

/-- Runs a source whose first line has a number. Words for the source come before what is said about
its syntax. -/
def runSource (place : Place) (voice : Text) (first : Nat) (source : Text) : Act Unit := do
  let s ← get
  let source := if s.isStandard ∨ source.getLast? = some '\n' then source else source ++ ['\n']
  runLines run place voice source (first + source.count '\n') (source.length + 1) source

/-- Runs what a shell has for an event, with the number of its first line. The status is then again
what it was. -/
def runTrap (name : String) (first : Nat) (source : Text) : Act Unit := do
  let s ← get
  set { s with nesting := s.nesting + 1 }
  let voice := s.speaker ++ ": ".toList ++ name.toList ++ ": ".toList
  andAlways (runSource run Place.inner voice first source)
    (modify fun after ↦ { after with nesting := s.nesting, line := s.line })
  modify fun after ↦ { after with status := s.status, statuses := s.statuses }

/-- Runs what a shell has for an event, if it has anything and that is not under way already. -/
def runTrapAt (event : Nat) (name : String) (first : Nat) : Act Unit := do
  let s ← get
  match if s.handling = some event then none else s.traps.lookup event with
  | some source =>
    if !source.isEmpty then
      set { s with handling := some event }
      andAlways (runTrap run name first source)
        (modify fun after ↦ { after with handling := s.handling })
  | none => return

/-- Runs what a shell has for something about its commands, at the line of the command under way. -/
def runTrapFor (event : Nat) (name : String) : Act Unit := do
  runTrapAt run event name (← get).line

/-! ### Signals -/

/-- Whether a shell goes on when a signal comes for which it has nothing to run. -/
def withstands (s : State) (signal : Nat) : Bool :=
  Signal.harmless.contains signal || (signal = Signal.quit && !s.isStandard)

/-- Lets a signal come for the shell: what it has for it is run, or the shell ends. -/
def heed (signal : Nat) : Act Unit := do
  let s ← get
  match if signal = Signal.kill then none else s.traps.lookup signal with
  | some _ => runTrapAt run signal "trap" 1
  | none => if !withstands s signal then throw (.killed signal)

/-- Lets the signals come that have been sent to the shell while it waited. -/
def heedAll : Act Unit := do
  let s ← get
  let (own, others) := s.signals.partition fun e ↦ e.1 = s.process
  if !own.isEmpty then
    set { s with signals := others }
    for (_, signal) in own do heed run signal

/-! ### Ends -/

/-- Brings the result of what a shell has run into its status, and gives the signal that has ended
it, if one has. -/
def settle (result : Except Leave Unit) : Act (Option Nat) := do
  let s ← get
  let ended (status : Nat) : Act (Option Nat) := do
    set { s with status := status }
    return none
  match result with
  | .error .aborts =>
    let isInner := s.subshells ≠ 0 && s.purpose = .nothing
    ended (if s.isStandard then 2 else if s.isOn .errexit || isInner then 1 else 127)
  | .error .drops => ended 1
  | .error .valueless => ended 1
  | .error .unwritable => ended 1
  | .error (.killed signal) =>
    set { s with status := signalStatus signal }
    return some signal
  | _ => return none

/-- Ends a shell that has run something: what it has for its end is run, unless a signal leaves no
time for that. -/
def endShell (result : Except Leave Unit) : Act (Option Nat) := do
  let killed ← settle result
  let s ← get
  let isGone := killed.any fun signal ↦ signal = Signal.kill || signal = Signal.pipe
  match if isGone then none else s.traps.lookup Signal.ending with
  | none => return killed
  | some source =>
    set { s with traps := s.traps.filter fun t ↦ t.1 != Signal.ending }
    let voice := s.speaker ++ ": exit trap: ".toList
    match ← attempt (runSource run Place.inner voice 1 source) with
    | .ok () =>
      modify fun after ↦ { after with status := s.status }
      return killed
    | .error leave =>
      match ← settle (.error leave) with
      | some found => return some found
      | none => return killed

/-! ### Shells within shells -/

/-- Whether what a shell has for an event is kept in what is within it: a function, or a shell that
is made from it. -/
def Self.keepsWithin (s : Self) (event : Nat) : Bool :=
  if event = Signal.failure then s.switches.contains .errtrace
  else (event = Signal.command || event = Signal.leaving) && s.switches.contains .functrace

/-- What belongs to a shell that is made from another one. What is to be run when signals come is
forgotten, but a signal that is held off stays so. -/
def Self.forked (s : Self) (process : Nat) : Self :=
  { s with
    process := process
    around := s.process :: s.around
    subshells := s.subshells + 1
    purpose := .nothing
    awaited := .nothing
    traps := s.traps.filter fun t ↦ t.2.isEmpty || s.keepsWithin t.1
    formerTraps := s.traps
    handling := none }

/-- The jobs of a shell as those of one that is made from it, where they are listed or not. -/
def State.handedDown (s : State) (listed : Bool) : List Job :=
  (s.jobs.filter (·.status.isNone)).map fun job ↦
    { job with inherited := true, disowned := job.disowned || !listed }

/-- A job of a shell after one that was made from it, which may have sent it a signal. -/
def Job.settledAs (inner : List Job) (job : Job) : Job :=
  match inner.find? fun j ↦ j.inherited && j.process = job.process with
  | some j => { job with status := job.status.or j.status }
  | none => job

/-- Runs something in a shell of its own that is given. Afterwards the status is that of the inner
shell; jobs that it leaves behind run on. If a signal has ended the inner shell, it is given. -/
def inOwnShell (inner : Self) (here : Location) (jobs : List Job) (act : Act Unit) :
    Act (Option Nat) := do
  let outer ← get
  set { outer with toSelf := inner, jobs := jobs, files := { outer.files with here := here } }
  let result ← attempt act
  let killed ← endShell run result
  let s ← get
  let orphans := (s.jobs.filter fun job ↦ job.status.isNone && !job.inherited).map fun job ↦
    { job with disowned := true }
  let own := outer.jobs.map (Job.settledAs s.jobs)
  set { s with
    toSelf := { outer.toSelf with status := s.status }
    jobs := orphans ++ own
    files := { s.files with here := outer.files.here } }
  heedAll run
  return killed

/-- Runs those of the command lines which read what has been written to a conduit that a test
accepts. -/
def runReaders (isMeant : Reader → Bool) : Act Unit := do
  let s ← get
  if s.readers.isEmpty then return
  set { s with readers := s.readers.filter (!isMeant ·) }
  for r in (s.readers.filter isMeant).reverse do
    let t ← gathered r.conduit
    let conduit ← newConduit (.feed t)
    let act : Act Unit := do
      setChannel 0 conduit
      runSource run Place.outermost (r.self.speaker ++ ": command substitution: ".toList)
        r.self.line r.source
    let _ ← inOwnShell run r.self r.here [] act
    modify fun after ↦ { after with
      concluded := (r.self.process, after.status) :: after.concluded }
  modify fun after ↦ { after with status := s.status }

/-- Runs something in a shell of its own, and then what reads from it. -/
def inShell (inner : Self) (here : Location) (jobs : List Job) (act : Act Unit) :
    Act (Option Nat) := do
  let first := (← get).nextConduit
  let ended ← inOwnShell run inner here jobs act
  runReaders run fun r ↦ first ≤ r.conduit
  return ended

/-- Gives back the channels that were lent after there was a number of them. What reads from one
that is closed by that has read all that it will get. -/
def giveBack (count : Nat) : Act Unit := do
  let s ← get
  if s.lent.length ≤ count then return
  let gone := s.lent.take (s.lent.length - count)
  let channels := s.channels.filter fun e ↦ !gone.contains e.1
  let closed := (gone.filterMap (List.lookup · s.channels)).filter fun conduit ↦
    channels.all (·.2 != conduit)
  set { s with lent := s.lent.drop gone.length, channels := channels }
  runReaders run fun r ↦ closed.contains r.conduit && r.self.around.head? = some s.process

/-- Goes on with other channels, and then with those from before. Conduits that were added for them
are removed, unless something may still need them. -/
def withChannels {α : Type} (act : Act α) : Act α := do
  let old ← get
  andAlways act do
    runReaders run fun r ↦ old.nextConduit ≤ r.conduit && !r.late
    modify fun s ↦ {
      s with
      channels := old.channels
      lent := old.lent
      conduits :=
        if s.jobs.isEmpty ∧ s.readers.isEmpty then
          s.conduits.drop (s.conduits.length - old.conduits.length)
        else s.conduits }

/-- The number of a new process. -/
def newProcess : Act Nat := do
  let s ← get
  set { s with nextProcess := s.nextProcess + 1 }
  return s.nextProcess

/-- Runs something in a shell that is made from the present one, and that lists its jobs or does
not. -/
def inSubshell (listed : Bool) (act : Act Unit) : Act (Option Nat) := do
  let process ← newProcess
  let s ← get
  inShell run (s.toSelf.forked process) s.files.here (s.handedDown listed) act

/-! ### Jobs -/

/-- Whether a command lists jobs. -/
def Tree.listsJobs : Tree → Bool
  | .simple _ words _ => (words.head?.map Word.raw) = some "jobs".toList
  | _ => false

/-- Runs a command in a shell that has been made for it. -/
def runOwn (place : Place) (way : Awaited) : Tree → Act Unit
  | .simple line words rs => do
    modify fun s ↦ { s with purpose := way, awaited := way }
    run { place with final := true } (.simple line words rs)
  | .subshell line body => do
    modify fun s ↦ { s with line, base := line, command := (Tree.subshell line body).shown }
    run { place with final := true } body
  | t => run place t

/-- Lets a job run to its end, if it has not. -/
def runJob (job : Job) : Act Unit := do
  if job.status.isSome ∨ job.inherited then return
  let old := (← get).status
  let _ ← inShell run job.self job.here [] (runOwn run Place.inner .job job.tree)
  modify fun s ↦ { s with
    status := old
    jobs := s.jobs.map fun j ↦
      if j.process = job.process then { j with status := some s.status } else j }

/-- Lets all jobs run to their ends, the earliest first. -/
def runJobs : Act Unit := do
  for job in (← get).jobs.reverse do
    runJob run job

/-! ### Within words -/

/-- The source of a command line that does the same where only the input is led to a file: that the
file is written out. -/
def writtenOut (rules : Rules) (source : Text) : Text :=
  match readLine rules (source.count '\n') source with
  | .ok (some (.simple _ [] [r], rest)) =>
    if r.kind = .input ∧ r.handle.isNone ∧ rest.all isSpace then "command cat ".toList ++ source
    else source
  | _ => source

/-- The output of a command line, and its status as that of the shell; a shell of the standard keeps
that apart. -/
def capture (source : Text) : Act Text := do
  let conduit ← newConduit (.gather [] 0 false)
  let old ← get
  let source := source.dropWhile fun c ↦ c = '\n'
  let source := if source.any (· = '<') ∧ !old.isStandard then writtenOut old.rules source
    else source
  let act : Act Unit := do
    setChannel 1 conduit
    modify fun s ↦ { s with
      nesting := s.nesting + 1
      switches := if s.hasFeature "inherit_errexit" ∨ s.isStandard then s.switches
        else s.switches.filter (· != .errexit) }
    andAlways
      (runSource run Place.outermost (old.speaker ++ ": command substitution: ".toList) old.line
        source)
      (runJobs run)
  let _ ← inSubshell run true act
  let t ← gathered conduit
  modify fun s ↦ { s with
    conduits := s.conduits.filter fun e ↦ e.1 != conduit
    concluded := if s.isStandard then (old.nextProcess, s.status) :: s.concluded else s.concluded
    status := if s.isStandard then old.status else s.status }
  return t

/-- The greatest number of a channel that is taken for a command line in the place of a file. -/
def processChannel : Nat := 63

/-- A channel that is free, from a number down. -/
def freeBelow (s : State) : Nat → Nat
  | 0 => 0
  | n + 1 => if (s.channels.lookup (n + 1)).isSome then freeBelow s n else n + 1

/-- The path of a channel. -/
def channelPath (channel : Nat) : Text := "/dev/fd/".toList ++ shown channel

/-- The path of a file that is what a command line writes, or what it reads. -/
def processFile (reads : Bool) (source : Text) : Act Text := do
  let status := (← get).status
  let process := (← get).nextProcess
  let conduit ← if reads then do
      let process ← newProcess
      let conduit ← newConduit (.gather [] 0 false)
      let s ← get
      let reader : Reader := ⟨conduit, source, s.toSelf.forked process, s.files.here, false⟩
      set { s with readers := reader :: s.readers }
      pure conduit
    else do
      let t ← capture run source
      modify fun s ↦ { s with concluded := (process, s.status) :: s.concluded }
      newConduit (.feed t)
  let channel := freeBelow (← get) processChannel
  setChannel channel conduit
  modify fun s ↦ { s with status := status, beside := some process, lent := channel :: s.lent }
  return channelPath channel

end Sources

end CommandScript.Shell
