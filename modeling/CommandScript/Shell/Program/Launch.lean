import CommandScript.Shell.Program.Basic
import CommandScript.Shell.Decimal
import CommandScript.Shell.Subshell

/-!
# Programs that run others

A program runs in a process of its own, which knows nothing of the shell but the variables that it
exports. Some programs run another one in their own place, after a change to the environment or to
how long it may take.
-/
namespace CommandScript.Shell

/-! ### Processes -/

/-- Why a program cannot be run. -/
inductive LaunchFault where
  /-- There is no program of the name. -/
  | unknown
  /-- There is something of the name, but it cannot be run: the status and the words for that. -/
  | refused (status : Nat) (words : Text)
  deriving DecidableEq, Repr

/-- The words for a fault, as other programs than a shell have them. -/
def LaunchFault.words : LaunchFault → Text
  | .unknown => FileFault.missing.words
  | .refused 127 _ => FileFault.missing.words
  | .refused _ _ => "Permission denied".toList

/-- The status of a fault. -/
def LaunchFault.status : LaunchFault → Nat
  | .unknown => 127
  | .refused status _ => status

/-- What runs a program of a name in the present process. -/
abbrev Launch := Text → List Text → Act (Except LaunchFault Nat)

/-- The variables that a program gets, in the order in which a shell hands them over. In the place
of the shell, it is a shell less deep. -/
def State.handedOver (s : State) (path : Text) (inPlace : Bool) : List (Text × Text) :=
  let level := "SHLVL".toList
  let lowered (e : Text × Text) : Text × Text :=
    if inPlace ∧ e.1 = level then (level, shown (shellLevel e.2 (-1))) else e
  if s.isStandard then
    s.environment.reverse.mergeSort fun a b ↦ standardPlace 39 a.1 ≤ standardPlace 39 b.1
  else
    let isOwn (e : Text × Text) : Bool := e.1 = ['_']
    let all := (s.environment.filter (!isOwn ·)).map lowered
    all.mergeSort (fun a b ↦ keyBucket a.1 ≤ keyBucket b.1) ++ [(['_'], path)]

/-- A scope with nothing but an environment. -/
def environmentScope (values : List (Text × Text)) : Scope :=
  ⟨.whole, values.map fun e ↦
    (e.1, { Variable.ofText e.2 with attributes := { exported := true } })⟩

section Processes

variable (run : Runner)

/-- Runs a program of a path in a process of its own, which may take the place of the shell, and
gives its status and the signal that has ended it, if one has. -/
def inProcess (path : Text) (inPlace : Bool) (act : Act Nat) : Act (Nat × Option Nat) := do
  let process ← newProcess
  let outer ← get
  set { outer with
    process := process
    around := outer.process :: outer.around
    scopes := [environmentScope (outer.handedOver path inPlace)]
    functions := outer.functions.filter fun e ↦ e.2.exported
    traps := outer.traps.filter fun t ↦ t.2.isEmpty }
  let result ← attempt act
  let after ← get
  set { after with
    toSelf := outer.toSelf
    files := { after.files with here := outer.files.here }
    niceness := outer.niceness }
  heedAll run
  match result with
  | .ok status => return (status, none)
  | .error (.killed signal) => return (signalStatus signal, some signal)
  | .error .unwritable =>
    tellOf (String.ofList (path.reverse.takeWhile (· != '/')).reverse)
      "write error: Bad file descriptor".toList
    return (1, none)
  | .error _ => return (after.status, none)

end Processes

/-! ### Environments -/

/-- The lines that list an environment. -/
def environmentItems (s : State) : List Text :=
  s.environment.map (fun e ↦ e.1 ++ '=' :: e.2)

/-- The program `printenv`. -/
def printEnvironment : Utility :=
  let form : OptionForm := {
    name := "printenv", plain := "0", failure := 2, long := [("null", '0')] }
  fun arguments ↦ form.choose arguments fun c ↦ do
    let s ← get
    let ending := if c.has '0' then '\x00' else '\n'
    let items := if c.others.isEmpty then environmentItems s
      else c.others.filterMap fun name ↦ s.environment.lookup name
    put (items.flatMap (· ++ [ending]))
    return if c.others.isEmpty ∨ items.length = c.others.length then 0 else 1

/-- An environment with a variable set. -/
def withVariable (name value : Text) (values : List (Text × Text)) : List (Text × Text) :=
  if (values.lookup name).isSome then
    values.map fun e ↦ if e.1 = name then (name, value) else e
  else values ++ [(name, value)]

section Launching

variable (launch : Launch)

/-- Runs another program in the place of one, which tells where that is not possible. -/
def replaceBy (program : String) (quote : Text → Text) (before : String) (words : List Text) :
    Act Nat := do
  match words with
  | [] => return 0
  | name :: arguments =>
    match ← launch name arguments with
    | .ok status => return status
    | .error f => failOf program f.status (before.toList ++ quote name ++ ": ".toList ++ f.words)

/-- The program `env`. -/
def changeEnvironment : Utility :=
  let form : OptionForm := {
    name := "env", plain := "i0v", valued := "uCS", failure := 125, inFront := true
    long := [("ignore-environment", 'i'), ("null", '0'), ("unset", 'u'), ("chdir", 'C'),
      ("split-string", 'S'), ("debug", 'v')] }
  fun arguments ↦ form.choose arguments fun c ↦ do
    let s ← get
    let others := (c.values 'S').flatMap wordsOf
    let words := others ++ c.others
    let isBare := c.has 'i' || words.head? = some ['-']
    let words := if words.head? = some ['-'] then words.drop 1 else words
    let isValue (t : Text) : Bool := t.contains '='
    let start := if isBare then [] else
      s.environment.filter fun e ↦ !(c.values 'u').contains e.1
    let values := (words.takeWhile isValue).foldl (fun values t ↦
      let name := t.takeWhile (· != '=')
      withVariable name (t.drop (name.length + 1)) values) start
    set { s with
      scopes := [environmentScope values]
      functions := if isBare then [] else s.functions }
    match (c.value? 'C').map fun t ↦ (t, s.files.enter (pathOf t)) with
    | some (t, .error f) =>
      return ← failOf "env" 125 ("cannot change directory to ".toList ++ curled t ++
        ": ".toList ++ f.words)
    | some (_, .ok files) => modify fun s ↦ { s with files }
    | none => pure ()
    match words.dropWhile isValue with
    | [] =>
      let ending := if c.has '0' then '\x00' else '\n'
      put ((environmentItems (← get)).flatMap (· ++ [ending]))
      return 0
    | command => replaceBy launch "env" curled "" command

/-- The arguments of `nice` in which a number after a hyphen, as it may stand in the place of an
option, is the value of one. -/
def adjustments : List Text → List Text
  | ['-', 'n'] :: t :: rest => ['-', 'n'] :: t :: adjustments rest
  | ('-' :: t) :: rest =>
    let digits := if t.head? = some '-' ∨ t.head? = some '+' then t.drop 1 else t
    if (digits.head?.map Char.isDigit) = some true then ['-', 'n'] :: t :: adjustments rest
    else ('-' :: t) :: rest
  | rest => rest

/-- How far a process stands back, for which there is a least and a greatest measure. -/
def standingBack (n : Int) : Int := max (-20) (min 19 n)

/-- The program `nice`. -/
def runNicely : Utility :=
  let form : OptionForm := {
    name := "nice", valued := "n", long := [("adjustment", 'n')], failure := 125, inFront := true }
  fun arguments ↦ form.choose (adjustments arguments) fun c ↦ do
    let s ← get
    match c.value? 'n', c.others with
    | none, [] =>
      putLine (toString s.niceness).toList
      return 0
    | some _, [] => form.misuse "a command must be given with an adjustment".toList
    | given, words =>
      match wholeNumber? (given.getD "10".toList) with
      | none => failOf "nice" 125 ("invalid adjustment ".toList ++ curled (given.getD []))
      | some n =>
        set { s with niceness := standingBack (s.niceness + n) }
        replaceBy launch "nice" curled "" words

/-- The program `nohup`. -/
def runOn : Utility :=
  let form : OptionForm := { name := "nohup", failure := 125, inFront := true }
  fun arguments ↦ form.choose arguments fun c ↦ do
    if c.others.isEmpty then form.misuse "missing operand".toList
    else replaceBy launch "nohup" quotedName "failed to run command " c.others

/-- The program `stdbuf`, which changes nothing that shows. -/
def runBuffered : Utility :=
  let form : OptionForm := { name := "stdbuf", valued := "ioe", failure := 125, inFront := true }
  fun arguments ↦ form.choose arguments fun c ↦ do
    if c.others.isEmpty then form.misuse "missing operand".toList
    else replaceBy launch "stdbuf" curled "failed to run command " c.others

/-- The program `setsid`. -/
def runApart : Utility :=
  let form : OptionForm := { name := "setsid", plain := "cfw", inFront := true }
  fun arguments ↦ form.choose arguments fun c ↦ do
    if c.others.isEmpty then form.misuse "no command specified".toList
    else replaceBy launch "setsid" id "failed to execute " c.others

/-- Runs a command line in a shell of its own, with a text as its input if one is given, and gives
its status and the signal that has ended it, if one has. -/
def runCommandLine (run : Runner) (shell : String) (input : Option Text) (line : Text) :
    Act (Nat × Option Nat) := do
  let first := (← get).nextConduit
  let result ← inProcess run "/usr/bin/sh".toList false do
    match input with
    | some t => setChannel 0 (← newConduit (.feed t))
    | none => pure ()
    match ← launch shell.toList ["-c".toList, line] with
    | .ok status => return status
    | .error f => return f.status
  modify fun s ↦ { s with conduits := s.conduits.filter (·.1 < first) }
  return result

/-- What a command line writes, and its status. -/
def commandOutput (run : Runner) (shell : String) (line : Text) : Act (Text × Nat) := do
  let conduit ← newConduit (.gather [] 0 false)
  let outer := (← get).channels
  setChannel 1 conduit
  let (status, _) ← runCommandLine launch run shell none line
  let t ← gathered conduit
  modify fun s ↦ { s with channels := outer, conduits := s.conduits.filter (·.1 != conduit) }
  return (t, status)

/-! ### Times -/

/-- The number of microseconds of a time with a unit. -/
def microseconds? (t : Text) : Option Nat :=
  let (digits, unit) := match t.getLast? with
    | some 's' => (t.dropLast, 1)
    | some 'm' => (t.dropLast, 60)
    | some 'h' => (t.dropLast, 3600)
    | some 'd' => (t.dropLast, 86400)
    | _ => (t, 1)
  match readReal digits with
  | some (.finite false f, []) => some (f.numerator * unit * 1000000 / f.denominator)
  | some (.infinite false, []) => some (Nat.pow 10 15)
  | _ => none

/-- Lets time pass. A signal that is due by then comes for the process and for all those around it,
up to the one that sends it. -/
def passTime (n : Nat) : Act Unit := do
  let s ← get
  match s.deadline with
  | some (moment, signal, sender) =>
    if moment ≤ s.elapsed + n then
      let hit := s.around.takeWhile (· != sender)
      set { s with
        elapsed := moment
        signals := s.signals ++ hit.map fun process ↦ (process, signal) }
      throw (.killed signal)
    else set { s with elapsed := s.elapsed + n }
  | none => set { s with elapsed := s.elapsed + n }

/-- The program `timeout`. -/
def runInTime (run : Runner) : Utility :=
  let form : OptionForm := {
    name := "timeout", plain := "vf", valued := "ks", failure := 125, inFront := true
    long := [("kill-after", 'k'), ("signal", 's'), ("preserve-status", 'p'), ("foreground", 'f'),
      ("verbose", 'v')] }
  fun arguments ↦ form.choose arguments fun c ↦ do
    match c.others with
    | time :: command@(name :: _) =>
      match microseconds? time with
      | none =>
        form.misuse ("invalid time interval ".toList ++ curled time)
      | some n =>
        let s ← get
        let signal := ((c.value? 's').bind Signal.number?).getD Signal.usual
        let moment := s.elapsed + n
        let act : Act (Nat × Option Nat) := inProcess run name false do
          modify fun s ↦ { s with
            deadline := if n = 0 then s.deadline else some (moment, signal, s.around.headD 0) }
          replaceBy launch "timeout" curled "failed to run command " command
        let (status, _) ← act
        let isLate := n ≠ 0 && (← get).elapsed = moment && status = signalStatus signal
        if isLate ∧ c.has 'v' then
          tellOf "timeout" ("sending signal ".toList ++ Signal.name signal ++
            " to command ".toList ++ curled name)
        if isLate ∧ signal = Signal.kill then throw (.killed signal)
        return if isLate ∧ !c.has 'p' then 124 else status
    | _ =>
      tell "Try 'timeout --help' for more information.\n".toList
      return 125

end Launching

end CommandScript.Shell
