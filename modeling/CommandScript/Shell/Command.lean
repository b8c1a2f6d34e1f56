import CommandScript.Shell.Builtin
import CommandScript.Shell.Launch
import CommandScript.Shell.Redirection
import CommandScript.Shell.Trace

/-!
# Simple commands

A simple command is expanded to fields, of which the first one names a function, a command of the
shell, or a program. Assignments before it hold for the time of the command, or for good when
nothing else is left of it. Redirections are made around it.
-/
namespace CommandScript.Shell

section Commands

variable (run : Runner)

/-! ### Before and after commands -/

/-- Lets a command be known to the shell before it runs, and runs what there is for every command.
-/
def announce (line : Nat) (text : Text) : Act Unit := do
  modify fun s ↦ { s with
    line := line
    command := if s.handling.isSome then s.command else text }
  runTrapFor run Signal.command "debug trap"

/-- Lets a failure that nothing looks at have its consequences: what the shell has for failures is
run, and the shell is left when that has been asked for. -/
def checkFailure (place : Place) : Act Unit := do
  if (← get).status ≠ 0 ∧ !place.guarded then
    runTrapFor run Signal.failure "error trap"
    if (← get).isOn .errexit then throw .exits

/-- Gives the shell the status of a command that is a pipeline of its own. -/
def endWith (status : Nat) : Act Unit := modify fun s ↦ { s with status, statuses := [status] }

/-- Tells that a signal has ended a process. -/
def tellKilled (signal : Nat) : Act Unit := do
  let s := (← get).betweenCommands
  let words := (Signal.description signal).toList
  if signal = Signal.interruption ∨ words.isEmpty then return
  else if s.isStandard ∨ signal = Signal.usual then tellLine words
  else tell (s.remark (padStart 5 (shown (s.nextProcess - 1)) ++ ' ' ::
    Text.padEnd 24 words ++ s.command))

/-! ### Functions -/

/-- The name of what defines functions now. -/
def State.definingOrigin (s : State) : Text :=
  match s.frames.head? with
  | some frame => frame.origin
  | none =>
    if s.origin.contains 'c' then "environment".toList
    else if s.origin.contains 's' then "main".toList else s.called

/-- What a shell has for events, as far as it is kept in a function. -/
def State.trapsWithin (s : State) : List (Nat × Text) :=
  s.traps.filter fun t ↦ t.1 < Signal.command || s.keepsWithin t.1

/-- What a shell has for events after a function: what has been kept from it comes back, unless the
function has left something in its place. -/
def trapsAfter (before within after : List (Nat × Text)) : List (Nat × Text) :=
  let held := before.filter fun t ↦ !within.contains t && (after.lookup t.1).isNone
  held ++ after

/-- Calls a function. -/
def callFunction (place : Place) (name : Text) (f : Function) (arguments : List Text) :
    Act Nat := do
  let s ← get
  let within := s.trapsWithin
  set { s with
    frames := ⟨name, s.line, f.origin, true⟩ :: s.frames
    scopes := ⟨.function, []⟩ :: s.scopes
    traps := within
    speaker := if s.isStandard then s.speaker else f.origin
    line := f.line
    base := f.line
    arguments }
  runTrapFor run Signal.command "debug trap"
  let result ← attempt (run ⟨place.guarded, false, false, 0⟩ f.body)
  match result with
  | .ok () => runTrapFor run Signal.leaving "return trap"
  | .error .returns => runTrapFor run Signal.leaving "return trap"
  | _ => pure ()
  modify fun after ↦ { after with
    frames := s.frames
    scopes := after.scopes.drop (after.scopes.length - s.scopes.length)
    traps := trapsAfter s.traps within after.traps
    speaker := s.speaker
    arguments := s.arguments
    optionPlace := s.optionPlace
    line := s.line
    base := s.base }
  match result with
  | .ok () => return (← get).status
  | .error .returns => return (← get).status
  | .error leave => throw leave

/-! ### Programs -/

/-- Tells that a command is not found, or lets the function for that run. -/
def tellNotFound (name : Text) (arguments : List Text) (f : LaunchFault) : Act Nat := do
  let s ← get
  match f with
  | .unknown =>
    if s.isStandard then failWith 127 (name ++ ": not found".toList)
    else match s.functions.lookup "command_not_found_handle".toList with
      | some handler =>
        let _ ← inSubshell run false do
          let status ← callFunction run Place.inner "command_not_found_handle".toList handler
            (name :: arguments)
          modify fun s ↦ { s with status }
        return (← get).status
      | none => failWith 127 (name ++ ": command not found".toList)
  | .refused status words =>
    if s.isStandard ∧ status = 127 then failWith 127 (name ++ ": not found".toList)
    else if s.isStandard then failWith 126 (name ++ ": Permission denied".toList)
    else failWith status (name ++ ": ".toList ++ words)

/-- Runs a program in a process of its own, for which the shell waits. -/
def runProgram (place : Place) (name : Text) (arguments : List Text) : Act Nat := do
  let s ← get
  rememberRun name
  let name := launchName s name
  match executable s name with
  | .error f => tellNotFound run name arguments f
  | .ok found =>
    if found matches .stock "sleep" then runJobs run
    runReaders run Reader.late
    let replaces := place.final && s.traps.isEmpty
    let inPlace := replaces && s.purpose != .stage
    let (status, signal?) ← inProcess run (launchPath s name) inPlace do
      match ← launch run name arguments with
      | .ok status => return status
      | .error f => tellNotFound run name arguments f
    match signal? with
    | none => return status
    | some signal =>
      if replaces then throw (.killed signal)
      tellKilled signal
      return status

/-- Runs a program in the place of the shell. -/
def replaceShell (words : List Text) : Act Nat := do
  match flagsOf "cl" "a" words with
  | .error message =>
    complain ("exec: ".toList ++ message)
    tellUsage "exec"
  | .ok f =>
    match f.others with
    | [] => return 0
    | name :: arguments =>
      let s ← get
      match executable s name with
      | .error fault =>
        let told := if s.isStandard then
            name ++ (if fault.status = 126 then ": Permission denied" else ": not found").toList
          else if fault = .unknown then name ++ ": not found".toList
          else name ++ ": ".toList ++ fault.words
        let status ← if s.isStandard then failAs "exec" fault.status told
          else if fault = .unknown then failAs "exec" 127 told else failWith fault.status told
        modify fun s ↦ { s with status }
        if s.hasFeature "execfail" then return status else throw .exits
      | .ok _ =>
        modify fun s ↦ { s with traps := s.traps.filter fun t ↦ t.2.isEmpty }
        let act : Act Nat := do
          match ← launch run name arguments with
          | .ok status => return status
          | .error _ => return 127
        let (status, signal?) ← inProcess run (launchPath s name) (s.subshells = 0) act
        if let some signal := signal? then throw (.killed signal)
        modify fun s ↦ { s with status }
        throw .exits

/-! ### Commands by name -/

/-- The options at the start of the arguments of a command that runs others, and what follows. -/
def leadingOptions : List Declared → List Text × List Declared
  | .word ['-', '-'] :: rest => ([], rest)
  | .word ('-' :: c :: letters) :: rest =>
    let (options, others) := leadingOptions rest
    ((c :: letters) :: options, others)
  | rest => ([], rest)

/-- Runs a command of a shell of the standard. What it says goes without the name of a command
around it, and its fault is one of the shell only if it is a special one. -/
def asStandard (special : Bool) (act : Act Nat) : Act Nat := do
  let outer := (← get).within
  modify fun s ↦ { s with within := [] }
  let result ← attempt act
  modify fun s ↦ { s with within := outer }
  match result, special with
  | .error .aborts, false => return 2
  | result, _ => resume result

/-- Runs a command of a name with arguments: a function, unless these are passed over, a command of
the shell, or a program, unless only the shell is to be looked at. -/
def runNamed (place : Place) : Nat → Bool → Bool → Text → List Declared → Act Nat
  | 0, _, _, _, _ => return 0
  | n + 1, usesFunctions, usesPrograms, name, arguments => do
    let s ← get
    let others (command : String) (functions programs : Bool) (rest : List Declared) : Act Nat :=
      match rest with
      | [] => return 0
      | .word name :: rest => runNamed place n functions programs name rest
      | _ => failAs command 1 "not a command".toList
    match if usesFunctions then s.functions.lookup name else none with
    | some f => callFunction run place name f (declaredWords arguments)
    | none =>
      if !s.hasCommand name then
        if usesPrograms then runProgram run place name (declaredWords arguments)
        else failAs "builtin" 1 (name ++ ": not a shell builtin".toList)
      else
        let (options, rest) := leadingOptions arguments
        let letters := options.flatten
        match String.ofList name with
        | "command" =>
          match letters.find? fun c ↦ !"pvV".toList.contains c with
          | some c =>
            if s.isStandard then failAs "command" 2 ("Illegal option -".toList ++ [c])
            else
              complain ("command: -".toList ++ [c] ++ ": invalid option".toList)
              tellUsage "command"
          | none =>
            if letters.contains 'v' ∨ letters.contains 'V' then
              tellCommands (letters.contains 'V') (declaredWords rest)
            else others "command" false true rest
        | "builtin" =>
          match letters with
          | c :: _ =>
            complain ("builtin: -".toList ++ [c] ++ ": invalid option".toList)
            tellUsage "builtin"
          | [] => others "builtin" false false rest
        | "exec" => replaceShell run (declaredWords arguments)
        | _ =>
          match commandOf? run place s.isStandard name with
          | some act =>
            let act := withOutput name (act arguments)
            if s.isStandard then asStandard (usesFunctions && isSpecial name) act else act
          | none => return 0

/-! ### Fields -/

/-- The commands whose arguments are assignments where they are written like them. -/
def assigningCommands : List Text :=
  ["declare", "typeset", "local", "export", "readonly"].map String.toList

/-- An argument that is written like an assignment, or the fields of another one. -/
def expandDeclared (w : Word) : Act (List Declared) := do
  match w.assignment with
  | none => return (← wordFields run w).map .word
  | some a =>
    match a.given with
    | .members source =>
      return [.members a.target.name a.target.adds (← expandMembers run source)]
    | .value pieces =>
      let subscript ← a.target.subscript.mapM (subscriptText run)
      let value := joined (← expandWhole run w.raw (assignedTildes (← get) true pieces))
      let place := a.target.name ++ match subscript with
        | some t => '[' :: t ++ [']']
        | none => []
      return [.word (place ++ (if a.target.adds then "+=" else "=").toList ++ value)]

/-- Whether the words after some are assignments where they are written like them, given the words
that are left. -/
def declaresAfter : List Word → Nat
  | [] => 0
  | w :: rest =>
    match w.plain? with
    | none => 0
    | some name =>
      if assigningCommands.contains name then 1
      else if name = "command".toList ∨ name = "builtin".toList then
        match declaresAfter rest with
        | 0 => 0
        | n + 1 => n + 2
      else 0

/-- Expands the words of a simple command. -/
def expandCommand (words : List Word) : Act (List Declared) := do
  let first ← words.take (declaresAfter words) |>.mapM (wordFields run)
  let head := first.flatten.map Declared.word
  let rest := words.drop (declaresAfter words)
  if declaresAfter words = 0 then return (← expandWords run rest).map .word
  else return head ++ (← rest.mapM (expandDeclared run)).flatten

/-! ### Assignments -/

/-- Makes assignments for good. In a trace, each has the prompt from before it. -/
def assignAll (words : List Word) : Act Unit := do
  for w in words do
    match w.assignment with
    | none => pure ()
    | some a =>
      let prompt ← tracePrompt run
      let t ← performAssignment run w a
      let isMembers := a.given matches .members _
      traceAfter prompt (tracedAssignment (← get).isStandard isMembers t)

/-- Makes assignments in the innermost scope, for the time of one command. -/
def assignForCommand (words : List Word) : Act Unit := do
  for w in words do
    match w.assignment with
    | some ⟨target, .value pieces⟩ =>
      let s ← get
      let given := joined (← expandWhole run w.raw (assignedTildes s true pieces))
      let old := (← get).variableOf? target.name
      trace run (tracedAssignment s.isStandard false
        (target.name ++ (if target.adds then "+=" else "=").toList ++ given))
      if ← isFixed target.name then
        complain (target.name ++ (if s.isStandard then ": is read only"
          else ": readonly variable").toList)
        if s.isStandard then
          modify fun s ↦ { s with status := 2 }
          throw .exits
      else
        let attributes := { (old.map Variable.attributes).getD {} with
          exported := true, reference := false }
        let value ← shaped attributes ((old.bind Variable.value?).getD []) target.adds given
        let v : Variable := { Variable.ofText value with attributes }
        modify fun s ↦ { s with scopes := match s.scopes with
          | scope :: rest => scope.insert target.name v :: rest
          | [] => [] }
    | _ => pure ()

/-- Sets the variable that holds the last word of a command. -/
def keepLastWord (t : Text) : Act Unit := modify fun s ↦
  if s.isStandard then s else s.put ['_'] (.ofText t)

/-! ### Simple commands -/

/-- Shows a command in a trace, and the assignments of those that give variables to programs. -/
def traceCommand (fields : List Declared) : Act Unit := do
  let s ← get
  if s.isOn .xtrace then
    let words := declaredWords fields
    trace run (tracedWords s.isStandard words)
    let marks := words.head? = some "export".toList || words.head? = some "readonly".toList
    if marks ∧ !s.isStandard then
      for t in words.drop 1 do
        if t.contains '=' then trace run (tracedAssignment false false t)

/-- Runs a command whose fields and assignments are there, between its redirections. -/
def runFields (place : Place) (rs : List Redirect) (name : Text) (arguments : List Declared) :
    Act Unit := do
  let s ← get
  let isReplacing := name = "exec".toList && (s.functions.lookup name).isNone
  if isReplacing then
    let conduits := s.channels.map (·.2)
    let isMade ← redirectAll run rs
    giveBack run s.lent.length
    if isMade then
      let kept := (← get).channels.map (·.2)
      postpone fun r ↦ conduits.contains r.conduit && !kept.contains r.conduit
      endWith (← replaceShell run (declaredWords arguments))
    else
      endWith (redirectFailure s)
      if s.isStandard then throw .exits
  else
    let place := { place with final := place.final && rs.isEmpty }
    let act : Act Unit := do
      let status ← runNamed run place (arguments.length + 1) true true name arguments
      modify fun s ↦ { s with status }
    let fails := s.isStandard && isSpecial name && (s.functions.lookup name).isNone
    withRedirects run rs act (if fails then throw .aborts else return ())
    modify fun s ↦ { s with statuses := [s.status] }

/-- Runs a simple command. -/
def runSimple (place : Place) (line : Nat) (words : List Word) (rs : List Redirect) :
    Act Unit := do
  let awaited := (← get).awaited
  if awaited = .nothing then announce run line (shownSimple words rs)
  let leading := words.takeWhile fun w ↦ w.assignment.isSome
  let before := (← get).nextProcess
  let fields ← expandCommand run (words.drop leading.length)
  modify fun s ↦ { s with awaited := .nothing }
  match fields with
  | [] =>
    assignAll run leading
    let s ← get
    if s.nextProcess = before then set { s with status := 0 }
    else if s.isStandard then
      if let some (_, status) := s.concluded.find? fun e ↦ before ≤ e.1 then set { s with status }
    withRedirects run rs (return ()) (return ())
    keepLastWord []
    modify fun s ↦ { s with statuses := [s.status] }
  | fields =>
    let s ← get
    let name := (declaredWords fields).headD []
    let keeps := s.isStandard && isSpecial name
    let act : Act Unit := do
      traceCommand run fields
      runFields run place rs name (fields.drop 1)
    if leading.isEmpty then act
    else if keeps then
      assignAll run leading
      act
    else
      set { s with scopes := ⟨.command, []⟩ :: s.scopes }
      andAlways (do assignForCommand run leading; act)
        (modify fun after ↦
          { after with scopes := after.scopes.drop (after.scopes.length - s.scopes.length) })
    keepLastWord ((declaredWords fields).getLastD [])
  if awaited = .nothing then checkFailure run place
  modify State.betweenCommands

end Commands

end CommandScript.Shell
