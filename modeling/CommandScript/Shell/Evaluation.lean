import CommandScript.Shell.Command

/-!
# Running trees

The evaluator runs a tree at a place, of which it knows what is around the tree. It has fuel, which
bounds the depth of the commands and the rounds of their loops; a shell that runs out of it exits
with a failure.
-/
namespace CommandScript.Shell

section Evaluation

variable (run : Runner)

/-! ### Pipelines -/

/-- The commands of a pipeline. -/
def Tree.stages : Tree → List Tree
  | .pipe left right => left :: right.stages
  | t => [t]

/-- Lets a command be known that runs in a shell of its own, but is one of the present shell. -/
def announceStage : Tree → Act Unit
  | .simple line words rs => announce run line (shownSimple words rs)
  | _ => return ()

/-- Runs commands of a pipeline in shells of their own, each with what the one before it has written
as its input. Their statuses are given, and the conduit of what the last one has written. -/
def runStages (place : Place) : List Tree → Option Nat → Act (List Nat × Option Nat)
  | [], feed => return ([], feed)
  | t :: rest, feed => do
    announceStage run t
    let out ← newConduit (.gather [] 0 true)
    let _ ← inSubshell run t.listsJobs do
      if let some conduit := feed then setChannel 0 conduit
      setChannel 1 out
      andAlways (runOwn run place .stage t) (runJobs run)
    let status := (← get).status
    let conduit ← newConduit (.feed (← gathered out))
    modify fun s ↦ { s with conduits := s.conduits.filter fun e ↦ e.1 != out && some e.1 != feed }
    let (statuses, last) ← runStages place rest (some conduit)
    return (status :: statuses, last)

/-- Runs a pipeline. -/
def runPipe (place : Place) (t : Tree) : Act Unit := do
  let inside : Place := { place with final := false }
  let stages := t.stages
  let (statuses, feed) ← runStages run inside stages.dropLast none
  let last := stages.getLastD .nothing
  let s ← get
  let isWithin := s.hasFeature "lastpipe" && !s.isOn .monitor
  let act : Act Unit := do
    if let some conduit := feed then setChannel 0 conduit
    if isWithin then run inside last else runOwn run inside .stage last
  if isWithin then
    withChannels run act
  else
    announceStage run last
    if let some signal ← inSubshell run last.listsJobs act then tellKilled signal
  if let some conduit := feed then
    modify fun s ↦ { s with conduits := s.conduits.filter (·.1 != conduit) }
  let own := (← get).status
  let all := statuses ++ [own]
  let failed := (all.filter (· != 0)).getLast?.getD 0
  modify fun s ↦ { s with
    status := if s.isOn .pipefail then failed else own
    statuses := all }
  if let .subshell _ _ := last then
    modify fun s ↦ { s with command := last.shown }
    if failed ≠ 0 ∧ own = failed ∧ !place.guarded then
      runTrapFor run Signal.failure "error trap"
  checkFailure run place
  modify State.betweenCommands

/-! ### Jobs -/

/-- Lets a command run beside the shell. -/
def runBeside (t : Tree) : Act Unit := do
  announceStage run t
  let process ← newProcess
  let conduit ← newConduit .nothing
  let s ← get
  let self := s.toSelf.forked process
  let self := { self with channels := (0, conduit) :: self.channels.filter fun e ↦ e.1 != 0 }
  let number := (s.listedJobs.map Job.number).foldl max 0 + 1
  let job : Job := {
    number, process, tree := t, text := t.shown, self, here := s.files.here
    status := none, disowned := false, inherited := false }
  set { s with jobs := job :: s.jobs, beside := some process }
  endWith 0

/-! ### Loops -/

/-- What the end of a round of a loop means for the loop: whether it goes on. -/
def afterRound (result : Except Leave Unit) : Act Bool := do
  match result with
  | .ok () => return true
  | .error (.breaks n) => if n ≤ 1 then return false else throw (.breaks (n - 1))
  | .error (.continues n) => if n ≤ 1 then return true else throw (.continues (n - 1))
  | .error leave => throw leave

/-- Runs the rounds of a loop for as long as its condition holds. The status is that of the last
round. -/
def runRounds (condition : Act Bool) (body step : Act Unit) : Nat → Nat → Act Unit
  | 0, _ => do
    modify fun s ↦ { s with status := 1 }
    throw .exits
  | n + 1, last => do
    match ← attempt condition with
    | .ok false => modify fun s ↦ { s with status := last }
    | .ok true =>
      if ← afterRound (← attempt body) then
        let status := (← get).status
        step
        runRounds condition body step n status
    | .error leave =>
      if ← afterRound (.error leave) then runRounds condition body step n last

/-- Gives a variable the value of a round of a loop, or fails. -/
def assignRound (name value : Text) : Act Bool := do
  let s ← get
  let name := s.referred name
  if ← isFixed name then
    complain (name ++ ": readonly variable".toList)
    endWith 1
    return false
  else
    assignFreely name none false value
    return true

/-- Runs the rounds of a loop over values. -/
def runEach (name : Text) (before body : Act Unit) : List Text → Act Unit
  | [] => return ()
  | value :: rest => do
    before
    if ← assignRound name value then
      if ← afterRound (← attempt body) then runEach name before body rest

/-- The values of a loop. -/
def loopValues (words : Option (List Word)) : Act (List Text) := do
  match words with
  | none => return (← get).arguments
  | some words => expandWords run words

/-- The first line of a loop over values. -/
def loopHead (keyword : String) (name : Text) (words : Option (List Word)) : Text :=
  keyword.toList ++ ' ' :: name ++ " in ".toList ++ shownLoopWords words

/-- Refuses the name of the variable of a loop that can be none. -/
def refuseLoopName (name : Text) : Act Unit := do
  complain (citedText name ++ ": not a valid identifier".toList)
  endWith 1

/-! ### Menus -/

/-- The number of columns of an output. -/
def State.columns (s : State) : Nat := ((naturalNumber? (s.valueOf "COLUMNS")).getD 80)

/-- Tabulators and blanks from a column to another one. -/
def indentation (column target : Nat) : Text :=
  let stop := (column / 8 + 1) * 8
  if column < target ∧ stop ≤ target then
    '\t' :: indentation stop target
  else List.replicate (target - column) ' '
termination_by target - column

/-- A menu of items in columns. -/
def menuText (columns : Nat) (items : List Text) : Text :=
  let count := items.length
  let digits (n : Nat) : Nat := (shown n).length
  let widest := ((items.map fun t ↦ (wide t).length).foldl max 0) + digits count + 4
  let across := max 1 (columns / widest)
  let rows := (count + across - 1) / across
  let across := (count + rows - 1) / max 1 rows
  let (rows, across) := if rows = 1 then (across, 1) else (rows, across)
  let firstDigits := digits rows
  let row (r : Nat) : Text :=
    let places := (List.range across).filterMap fun c ↦ (items[r + c * rows]?).map fun t ↦ (c, t)
    (places.flatMap fun (c, t) ↦
      let width := if c = 0 then firstDigits else digits count
      let number := padStart width (shown (r + c * rows + 1))
      let cell := number ++ ") ".toList ++ t
      let isLast := (items[r + (c + 1) * rows]?).isNone
      let start := c * widest
      cell ++ if isLast then [] else indentation (start + (wide cell).length) (start + widest)) ++
      ['\n']
  (List.range rows).flatMap row

/-- Asks for an answer from a menu. Nothing is given where the input has ended. -/
def askMenu (items : List Text) : Nat → Bool → Act (Option Text)
  | 0, _ => return none
  | n + 1, shows => do
    let s ← get
    if shows then tell (menuText s.columns items)
    tell ((s.value? "PS3".toList).getD "#? ".toList)
    let status ← readVariables []
    let answer := (← get).valueOf "REPLY"
    if status ≠ 0 then
      put ['\n']
      return none
    else if answer.isEmpty then askMenu items n true
    else
      return some (match wholeNumber? answer with
        | some k => if 1 ≤ k then (items[k.toNat - 1]?).getD [] else []
        | none => [])

/-- Runs the rounds of a loop over answers from a menu. -/
def runMenu (name : Text) (items : List Text) (before body : Act Unit) : Nat → Bool → Act Unit
  | 0, _ => return ()
  | n + 1, shows => do
    before
    match ← askMenu items (n + 1) shows with
    | none => endWith 1
    | some value =>
      if ← assignRound name value then
        if ← afterRound (← attempt body) then
          runMenu name items before body n ((← get).valueOf "REPLY").isEmpty

/-! ### Conditions -/

/-- The value of an arithmetic expression in which words are still to be expanded, or nothing where
it has none. -/
def computeSource (source : Text) : Act (Option Int) := do
  let s ← get
  let pieces := lexQuoted s.rules (Parser.skipKnown s.rules) false source
  let result ← attempt (speakingAs "((" do arithmetic (joined (← expandWhole run source pieces)))
  match result with
  | .ok n => return some n
  | .error .valueless => return none
  | .error .drops => return none
  | .error leave => throw leave

/-- Runs an arithmetic expression as a command. -/
def runArithmetic (source : Text) : Act Unit := do
  trace run ("(( ".toList ++ source ++ " ))".toList)
  match ← computeSource run source with
  | some n => endWith (if n = 0 then 1 else 0)
  | none => endWith 1

/-- Whether an expression of a counting loop is left out. -/
def isLeftOut (source : Text) : Bool := source.all isSpace

/-- The value of an expression of a counting loop; one that is left out is true. -/
def loopExpression (line : Nat) (source : Text) : Act (Option Int) := do
  if isLeftOut source then return some 1
  else
    announce run line ("((".toList ++ source ++ "))".toList)
    trace run ("(( ".toList ++ source ++ " ))".toList)
    let value ← computeSource run source
    modify State.betweenCommands
    return value

/-- Runs a counting loop. -/
def runCount (fuel line : Nat) (start condition step : Text) (body : Act Unit) : Act Unit := do
  match ← loopExpression run line start with
  | none => endWith 1
  | some _ =>
    let failed : Act Unit := do
      endWith 1
      throw (.breaks 1)
    let test : Act Bool := do
      match ← loopExpression run line condition with
      | some n => return n ≠ 0
      | none =>
        failed
        return false
    let next : Act Unit := do
      if (← loopExpression run line step).isNone then failed
    let result ← attempt (runRounds test body next fuel 0)
    let _ ← afterRound result

/-- Runs a condition between double brackets. -/
def runCondition (c : Condition) : Act Unit := do
  match ← conditionValue run (trace run) c with
  | .ok value => endWith (if value then 0 else 1)
  | .error _ => endWith 2

/-- Whether one of the patterns of a choice matches a word. -/
def choiceFits (w : Text) : List Word → Act Bool
  | [] => return false
  | p :: rest => do
    if (← patternOf false (← wordMarked run p)).fits (wide w) then return true
    else choiceFits w rest

/-- Runs the choices that fit a word, or one to which the choice before it has led, given whether
any has run. -/
def runChoices (place : Place) (w : Text) (leads hasRun : Bool) : Tree → Act Unit
  | .choice patterns body ending others => do
    if leads || (← choiceFits run w patterns) then
      if body.isNothing then endWith 0 else run place body
      match ending with
      | .stops => return ()
      | .fallsThrough => runChoices place w true true others
      | .goesOn => runChoices place w false true others
    else runChoices place w false hasRun others
  | _ => if hasRun then return () else modify fun s ↦ { s with status := 0 }

/-! ### Times -/

/-- Tells how long a command has taken, which is no time at all. -/
def tellTime (plainly : Bool) : Act Unit :=
  tell (if plainly then "real 0.00\nuser 0.00\nsys 0.00\n".toList
    else "\nreal\t0m0.000s\nuser\t0m0.000s\nsys\t0m0.000s\n".toList)

end Evaluation

/-! ### Trees -/

/-- Runs a tree, given what runs the trees within it and a number of rounds that its loops may
take. -/
def runTree (here : Runner) (fuel : Nat) (place : Place) (tree : Tree) : Act Unit := do
  let inside : Place := { place with final := false }
  let watched : Place := { inside with guarded := true }
  let looping : Place := { inside with loops := place.loops + 1 }
  let listed : Place := { inside with listed := true }
  let whole (place : Place) (t : Tree) : Act Unit := do
    here place t
    if !place.listed ∧ !(← get).inFunction then giveBack here 0
  match tree with
  | .nothing => return
  | .simple line words rs => runSimple here place line words rs
  | .subshell line body =>
    modify fun s ↦ { s with line, command := tree.shown }
    let act : Act Unit := do
      modify fun s ↦ { s with base := line }
      here { inside with final := true } body
    if let some signal ← inSubshell here false act then tellKilled signal
    endWith (← get).status
    checkFailure here place
    modify State.betweenCommands
  | .group body => here inside body
  | .redirected body rs =>
    withRedirects here rs (here inside body) (checkFailure here place)
  | .pipe _ _ => runPipe here place tree
  | .negated t =>
    here watched t
    modify fun s ↦ { s with status := if s.status = 0 then 1 else 0 }
  | .timed plainly t =>
    here inside t
    tellTime plainly
  | .background t => runBeside here t
  | .both left right =>
    here { watched with listed := true } left
    if (← get).status = 0 then here { place with listed := true } right
  | .either left right =>
    here { watched with listed := true } left
    if (← get).status ≠ 0 then here { place with listed := true } right
  | .sequence left right =>
    here listed left
    here { place with listed := true } right
  | .branch condition yes no =>
    whole watched condition
    if (← get).status = 0 then whole inside yes
    else if no.isNothing then modify fun s ↦ { s with status := 0 }
    else whole inside no
  | .loop whileTrue condition body =>
    let test : Act Bool := do
      whole { watched with loops := place.loops + 1 } condition
      return ((← get).status = 0) == whileTrue
    runRounds test (whole looping body) (return ()) fuel 0
  | .each line name words body => atLine line do
    let values ← loopValues here words
    if !isVariableName name then refuseLoopName name
    else
      let before : Act Unit := do
        announce here line (loopHead "for" name words)
        if !(← get).isStandard then
          trace here ("for ".toList ++ name ++ " in ".toList ++ match words with
            | none => "\"$@\"".toList
            | some ws => [' '].intercalate (ws.map Word.raw))
      if values.isEmpty then modify fun s ↦ { s with status := 0 }
      else runEach name before (whole looping body) values
  | .menu line name words body => atLine line do
    let values ← loopValues here words
    if !isVariableName name then refuseLoopName name
    else if values.isEmpty then modify fun s ↦ { s with status := 0 }
    else
      let before : Act Unit := do
        announce here line (loopHead "select" name words)
        trace here (loopHead "select" name words)
      runMenu name values before (whole looping body) fuel true
  | .count line start condition step body =>
    runCount here fuel line start condition step (whole looping body)
  | .select line w choices => atLine line do
    announce here line ("case ".toList ++ w.raw ++ " in ".toList)
    let t ← wordText here w
    if !(← get).isStandard then trace here ("case ".toList ++ w.raw ++ " in".toList)
    runChoices here inside t false false choices
  | .choice _ _ _ _ => return
  | .condition line c =>
    announce here line ("[[ ".toList ++ c.shown ++ " ]]".toList)
    runCondition here c
    checkFailure here place
    modify State.betweenCommands
  | .arithmetic line source =>
    announce here line ("((".toList ++ source ++ "))".toList)
    runArithmetic here source
    checkFailure here place
    modify State.betweenCommands
  | .define line name body =>
    modify fun s ↦
      let f : Function := ⟨body, line, s.definingOrigin, false⟩
      { s with functions := (name, f) :: s.functions.filter fun e ↦ e.1 != name, status := 0 }

/-- Runs a tree. What a command of a list or of a function has lent is then given back. -/
def run : Nat → Runner
  | 0, _, _ => do
    modify fun s ↦ { s with status := 1 }
    throw .exits
  | n + 1, place, tree => do
    let s ← get
    if s.isOn .noexec then return
    runTree (run n) n place tree
    if place.listed ∨ s.inFunction then giveBack (run n) s.lent.length

/-- The fuel of one command line. -/
def fuel : Nat := 1000000

end CommandScript.Shell
