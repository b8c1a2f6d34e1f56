import CommandScript.Shell.Program.Launch
import CommandScript.Shell.Program.RuleScript.Field
import CommandScript.Shell.Program.RuleScript.Table

/-!
# Running rule scripts

A run has the variables and tables of its script, the record under way, and the inputs and outputs
that are open. The record is cut into fields when one is asked for; when a field is assigned to, the
record is put together again. What is written to the output waits until a command line runs or the
run ends; what is written to a command line is its input when it is closed.

A statement that ends something around it stops the run up to there. A bound on the steps makes
every run end.
-/
namespace CommandScript.Shell.RuleScript

/-! ### State -/

/-- What a variable **holds**. -/
inductive Cell where
  /-- A value. -/
  | value (v : Value)
  /-- The table of a number. -/
  | table (id : Nat)
  /-- Nothing so far; it becomes the table of a number if it is used as one. -/
  | free (id : Nat)

/-- An output that is open. -/
structure Sink where
  /-- How what is written gets there. -/
  outlet : Outlet
  /-- The name of the file, or the command line. -/
  name : Text
  /-- What has been written, the latest first. -/
  parts : List Text := []

/-- An input that is open. -/
structure Source where
  /-- Whether it is what a command line writes. -/
  isCommand : Bool
  /-- The name of the file, or the command line. -/
  name : Text
  /-- What is left of it. -/
  rest : Text
  /-- The status of the command line. -/
  status : Nat

/-- The **state** of a run. -/
structure Run where
  /-- What the run is called in messages. -/
  voice : Text
  /-- The variables of the script. -/
  globals : Array Cell
  /-- Those of the function under way. -/
  own : Array Cell := #[]
  /-- How many parameters all functions under way have. -/
  depth : Nat := 0
  /-- How many functions are under way. -/
  calls : Nat := 0
  /-- The tables. -/
  tables : Array Table
  /-- The record. -/
  record : Value := .empty
  /-- Its fields. -/
  fields : Array Value := #[]
  /-- Whether the fields are those of the record. -/
  isSplit : Bool := false
  /-- What is left of the input under way, if there is one. -/
  current : Option Text := none
  /-- The number of the next argument. -/
  nextArgument : Nat := 1
  /-- Whether an argument has named an input. -/
  hasInput : Bool := false
  /-- The rules whose ranges are under way. -/
  ranges : List Nat := []
  /-- The open inputs. -/
  sources : List Source := []
  /-- The open outputs, the last one used first. -/
  sinks : List Sink := []
  /-- What waits to be written to the output, the latest first. -/
  waiting : List Text := []
  /-- The expressions that texts have been read as. -/
  patterns : List (Text × Expression) := []
  /-- Where the row of random numbers stands. -/
  seed : Nat := 0
  /-- What the row has been started with. -/
  seeded : Value := .number 0
  /-- The status of the run. -/
  status : Nat := 0

/-- Why a run stops, and up to where. -/
inductive Stop where
  /-- The loop ends. -/
  | leaves
  /-- The round of the loop ends. -/
  | skips
  /-- The next record comes. -/
  | nextRecord
  /-- The next input comes. -/
  | nextInput
  /-- The run ends. -/
  | exits
  /-- The function ends with a value. -/
  | gives (v : Value)
  /-- The run cannot go on. -/
  | fails

/-- A computation of a run. -/
abbrev RunM := ExceptT Stop (StateT Run Act)

/-- A place that can be read and assigned to. -/
inductive Spot where
  /-- A variable. -/
  | variable (s : Slot)
  /-- The element of a table. -/
  | element (id : Nat) (k : Key)
  /-- A field. -/
  | field (n : Nat)

namespace RunM

/-- Stops since the run cannot go on, with words for the reason. -/
def refuse {α : Type} (words : Text) : RunM α := do
  tellLine ((← get).voice ++ ": ".toList ++ words)
  modify fun r ↦ { r with status := 2 }
  throw .fails

/-! ### Variables -/

/-- What is in a variable. -/
def cell (s : Slot) : RunM Cell := do
  let r ← get
  return match s with
    | .global n => (r.globals[n]?).getD (.value .unset)
    | .own n => (r.own[n]?).getD (.value .unset)

/-- Puts something into a variable. -/
def setCell (s : Slot) (c : Cell) : RunM Unit := modify fun r ↦ match s with
  | .global n => { r with globals := r.globals.set! n c }
  | .own n => { r with own := r.own.set! n c }

/-- The value of a variable that every script has. -/
def valueOf (name : String) : RunM Value := do
  match ← cell (.global (special name)) with
  | .value v => return v
  | _ => return .unset

/-- The text of such a variable. -/
def textOf (name : String) : RunM Text := do
  let format := (← valueOf "CONVFMT").toText usualFormat
  return (← valueOf name).toText format

/-- A value as a text. -/
def asText (v : Value) : RunM Text := do
  match v with
  | .number x =>
    match wholeOf? x with
    | some n => return (toString n).toList
    | none => return numberByFormat ((← valueOf "CONVFMT").toText usualFormat) x
  | v => return v.toText usualFormat

/-- Sets such a variable. -/
def setSpecial (name : String) (v : Value) : RunM Unit :=
  setCell (.global (special name)) (.value v)

/-- Adds one to such a variable. -/
def countUp (name : String) : RunM Unit := do
  setSpecial name (.number ((← valueOf name).toNumber + 1))

/-- The table in a variable, which becomes one if nothing has been assigned to it. -/
def tableOf (s : Slot) : RunM Nat := do
  match ← cell s with
  | .table id => return id
  | .free id =>
    setCell s (.table id)
    return id
  | .value _ =>
    let r ← get
    let id := r.tables.size
    set { r with tables := r.tables.push {} }
    setCell s (.table id)
    return id

/-- A table by its number. -/
def table (id : Nat) : RunM Table := do return ((← get).tables[id]?).getD {}

/-- Puts a table in the place of another. -/
def setTable (id : Nat) (t : Table) : RunM Unit := modify fun r ↦
  { r with tables := r.tables.set! id t }

/-- The value under a key of a table. The key is there afterwards. -/
def lookUp (id : Nat) (k : Key) : RunM Value := do
  let (found, t) := (← table id).find true k
  setTable id t
  return (found.map fun i ↦ (t.entry i).value).getD .unset

/-- Puts a value under a key of a table. -/
def put (id : Nat) (k : Key) (v : Value) : RunM Unit := do
  let (found, t) := (← table id).find true k
  setTable id (match found with
    | some i => t.store i v
    | none => t)

/-- The key that values stand for. -/
def keyOf : List Value → RunM Key
  | [.number x] => do
    match wholeOf? x with
    | some n =>
      if n.natAbs < Nat.pow 2 31 then return .number n else return .name (← asText (.number x))
    | none => return .name (← asText (.number x))
  | vs => do
    let separator ← if vs.length ≤ 1 then pure [] else textOf "SUBSEP"
    return .name (separator.intercalate (← vs.mapM asText))

/-! ### Expressions -/

/-- The words where the run stands. -/
def place : RunM Text := do
  return "\n\tFILENAME=\"".toList ++ (← textOf "FILENAME") ++ "\" FNR=".toList ++
    (← textOf "FNR") ++ " NR=".toList ++ (← textOf "NR")

/-- The expression that a text spells. -/
def patternOf (t : Text) : RunM Expression := do
  let r ← get
  match r.patterns.lookup t with
  | some e => return e
  | none =>
    match expressionOf t with
    | .ok e =>
      set { r with patterns := (t, e) :: r.patterns.take 50 }
      return e
    | .error words =>
      refuse ("run time error: ".toList ++ words ++ (← place))

/-- The separator that a text stands for. -/
def separatorOf : Text → RunM Separator
  | [' '] => return .blanks
  | [] => return .nothing
  | [c] => return .character c
  | t => do return .matching (← patternOf t)

/-- What ends a record. -/
def recordEnd : RunM RecordEnd := do
  match ← textOf "RS" with
  | [] => return .emptyLines
  | [c] => return .character c
  | t => return .matching (← patternOf t)

/-! ### Fields -/

/-- Cuts the record into fields, if that has not been done. -/
def splitRecord : RunM Unit := do
  let r ← get
  if r.isSplit then return
  let t ← asText r.record
  let parts := (← separatorOf (← textOf "FS")).parts t
  modify fun r ↦ { r with fields := (parts.map Value.input).toArray, isSplit := true }
  setSpecial "NF" (.ofNat parts.length)

/-- Sets the record. -/
def setRecord (v : Value) : RunM Unit := modify fun r ↦
  { r with record := v, fields := #[], isSplit := false }

/-- Puts the record together from its fields. -/
def joinFields : RunM Unit := do
  let separator ← textOf "OFS"
  let parts ← (← get).fields.toList.mapM asText
  modify fun r ↦ { r with record := .input (separator.intercalate parts) }

/-- Sets the number of fields. -/
def setFieldCount (n : Nat) : RunM Unit := do
  splitRecord
  modify fun r ↦
    let count := r.fields.size
    { r with fields := if n ≤ count then r.fields.take n
      else r.fields ++ Array.replicate (n - count) Value.empty }
  setSpecial "NF" (.ofNat n)

/-- The number of a field that a value stands for. -/
def fieldNumber (v : Value) : RunM Nat := do
  let n := wholePart v.toNumber
  if n < 0 then
    refuse ("run time error: negative field index $".toList ++ (toString n).toList ++ (← place))
  return n.toNat

/-! ### Spots -/

/-- The value in a spot. -/
def fetch : Spot → RunM Value
  | .variable s => do
    if s = .global (special "NF") then splitRecord
    match ← cell s with
    | .value v => return v
    | _ => return .unset
  | .element id k => lookUp id k
  | .field 0 => do return (← get).record
  | .field (n + 1) => do
    splitRecord
    return ((← get).fields[n]?).getD .empty

/-- Puts a value into a spot. -/
def store (s : Spot) (v : Value) : RunM Unit := do
  match s with
  | .variable s =>
    if s = .global (special "NF") then
      let x := v.toNumber
      let n := if x.isNaN then 0 else wholePart x
      if n < 0 then refuse ("run time error: negative value assigned to NF".toList ++ (← place))
      setFieldCount n.toNat
      setCell s (.value v)
      joinFields
    else
      if s = .global (special "FS") then splitRecord
      setCell s (.value v)
  | .element id k => put id k v
  | .field 0 => setRecord v
  | .field (n + 1) =>
    splitRecord
    if (← get).fields.size ≤ n then setFieldCount (n + 1)
    modify fun r ↦ { r with fields := r.fields.set! n v }
    joinFields

/-! ### Output -/

section Channels

variable (launch : Launch) (run : Runner)

/-- Hands over what waits to be written. -/
def handOver : RunM Unit := do
  let r ← get
  let emptied (s : Sink) : Sink := if s.outlet = .command then s else { s with parts := [] }
  set { r with waiting := [], sinks := r.sinks.map emptied }
  (Shell.put r.waiting.reverse.flatten : Act Unit)
  for s in r.sinks do
    if s.outlet != .command then
      let _ ← (writeFile .appending s.name s.parts.reverse.flatten : Act _)

/-- The names of the output and of the error output. -/
def outputNames : List Text := ["/dev/stdout".toList, ['-']]

/-- Writes a text to the output or to where it is led. -/
def emit (aim : Option (Outlet × Text)) (t : Text) : RunM Unit := do
  let usual : RunM Unit := modify fun r ↦ { r with waiting := t :: r.waiting }
  match aim with
  | none => usual
  | some (outlet, name) =>
    if outlet != .command ∧ outputNames.contains name then usual
    else if outlet != .command ∧ name = "/dev/stderr".toList then tell t
    else
      let r ← get
      let isOne (s : Sink) : Bool := s.name = name && (s.outlet = .command) = (outlet = .command)
      match r.sinks.find? isOne with
      | some s =>
        let longer := { s with parts := t :: s.parts }
        set { r with sinks := longer :: r.sinks.filter (!isOne ·) }
      | none =>
        if outlet = .command then handOver
        else
          match ← (writeFile (if outlet = .over then .writing else .appending) name [] : Act _) with
          | .ok () => pure ()
          | .error f =>
            refuse ("cannot open \"".toList ++ name ++ "\" for output (".toList ++ f.words ++ [')'])
        modify fun r ↦ { r with sinks := ⟨outlet, name, [t]⟩ :: r.sinks }

/-- The shell that runs the command lines at the ends of pipes. -/
def pipeShell : String := "/bin/sh"

/-- Runs a command line with an input, if one is given, and gives its status. -/
def command (shell : String) (input : Option Text) (line : Text) : RunM Nat := do
  handOver
  let (status, signal) ← (runCommandLine launch run shell input line : Act (Nat × Option Nat))
  return match signal with
    | some n => 256 + n
    | none => status

/-- Ends an output. -/
def closeSink (s : Sink) : RunM Nat := do
  if s.outlet = .command then
    command launch run pipeShell (some s.parts.reverse.flatten) s.name
  else
    let _ ← (writeFile .appending s.name s.parts.reverse.flatten : Act _)
    return 0

/-- Ends all outputs. -/
def closeAll : RunM Unit := do
  let r ← get
  set { r with sinks := [], waiting := [] }
  for s in r.sinks do
    if s.outlet = .command then
      let input := some s.parts.reverse.flatten
      let _ ← (runCommandLine launch run pipeShell input s.name : Act (Nat × Option Nat))
    else
      let _ ← closeSink launch run s
  (Shell.put r.waiting.reverse.flatten : Act Unit)

/-- Ends what has a name, and gives its status. -/
def close (name : Text) : RunM Value := do
  let r ← get
  match r.sinks.find? (·.name = name), r.sources.find? (·.name = name) with
  | some s, _ =>
    set { r with sinks := r.sinks.filter (·.name != name) }
    return .ofNat (← closeSink launch run s)
  | none, some s =>
    set { r with sources := r.sources.filter (·.name != name) }
    return .ofNat s.status
  | none, none => return .number (-1)

/-! ### Input -/

/-- Cuts the first record off a text, by what ends records at present. -/
def firstRecord (t : Text) : RunM (Option (Text × Text)) := do return (← recordEnd).first? t

/-- The next record of an input that a script has opened itself. -/
def sourceRecord (isCommand : Bool) (name : Text) : RunM (Except Unit (Option Text)) := do
  let r ← get
  let isOne (s : Source) : Bool := s.name = name && s.isCommand = isCommand
  let found ← match r.sources.find? isOne with
    | some s => pure (some s)
    | none =>
      if isCommand then
        handOver
        let (t, status) ← (commandOutput launch run pipeShell name : Act (Text × Nat))
        pure (some ⟨true, name, t, status⟩)
      else
        match ← (readInput name : Act _) with
        | .ok t => pure (some ⟨false, name, t, 0⟩)
        | .error .isDirectory =>
          refuse ("read error (".toList ++ FileFault.isDirectory.words ++ [')'])
        | .error _ => pure none
  match found with
  | none => return .error ()
  | some s =>
    let (record, rest) ← match ← firstRecord s.rest with
      | some (record, rest) => pure (some record, rest)
      | none => pure (none, [])
    modify fun r ↦ { r with sources := { s with rest } :: r.sources.filter (!isOne ·) }
    return .ok record

/-- Makes the assignment that an argument spells, if it does. -/
def assignArgument (names : List Text) (t : Text) : RunM Bool := do
  let name := t.takeWhile (· != '=')
  if t.length = name.length ∨ !isVariableName name then return false
  let value := t.drop (name.length + 1)
  match names.idxOf? name with
  | some i => store (.variable (.global i)) (.input (unescape (value.length + 1) value))
  | none => pure ()
  return true

/-- Opens the next input that the arguments name, and gives whether there is one. -/
def openNext (names : List Text) : Nat → RunM Bool
  | 0 => return false
  | n + 1 => do
    let r ← get
    let count := wholePart (← valueOf "ARGC").toNumber
    let opened (name t : Text) : RunM Bool := do
      modify fun r ↦ { r with current := some t, hasInput := true }
      setSpecial "FILENAME" (.text name)
      setSpecial "FNR" (.number 0)
      return true
    if count ≤ r.nextArgument then
      if r.hasInput then return false
      match ← (readAll 0 : Act _) with
      | .ok t => opened ['-'] t
      | .error _ => opened ['-'] []
    else
      set { r with nextArgument := r.nextArgument + 1 }
      let id ← tableOf (.global (special "ARGV"))
      let (found, t) := (← table id).find false (.number r.nextArgument)
      let name ← asText ((found.map fun i ↦ (t.entry i).value).getD .unset)
      if name.isEmpty then openNext names n
      else if ← assignArgument names name then openNext names n
      else
        match ← (readInput name : Act _) with
        | .ok t => opened name t
        | .error .isDirectory =>
          refuse ("read error (".toList ++ FileFault.isDirectory.words ++ [')'])
        | .error f => refuse ("cannot open \"".toList ++ name ++ "\" (".toList ++ f.words ++ [')'])

/-- The next record of the inputs. -/
def nextRecord (names : List Text) : Nat → RunM (Option Text)
  | 0 => return none
  | n + 1 => do
    match (← get).current with
    | none =>
      if ← openNext names (n + 1) then nextRecord names n else return none
    | some t =>
      match ← firstRecord t with
      | some (record, rest) =>
        modify fun r ↦ { r with current := some rest }
        countUp "NR"
        countUp "FNR"
        return some record
      | none =>
        modify fun r ↦ { r with current := none }
        nextRecord names n

end Channels

/-! ### Formats -/

/-- A text that values make by a format, and whether all of the format could be used. -/
def formatted (routine format : Text) : Nat → List FormatPart → List Value → RunM (Text × Bool)
  | _, [], _ => return ([], true)
  | count, .plain t :: rest, vs => do
    let (t', ok) ← formatted routine format count rest vs
    return (t ++ t', ok)
  | _, .improper :: _, [] => do
    tellLine ((← get).voice ++ ": run time error: not enough arguments passed to ".toList ++
      routine ++ "(\"".toList ++ format ++ "\")".toList ++ (← place))
    return ([], false)
  | count, .improper :: _, _ => do
    tellLine ((← get).voice ++ ": run time error: improper conversion(number ".toList ++
      shown (count + 1) ++ ") in ".toList ++ routine ++ "(\"".toList ++ format ++
      "\")".toList ++ (← place))
    return ([], false)
  | count, .conversion flags width precision letter :: rest, vs => do
    let given (c : FormatCount) (vs : List Value) : Option (Option Int × List Value) :=
      match c, vs with
      | .missing, vs => some (none, vs)
      | .fixed n, vs => some (some (n : Int), vs)
      | .given, v :: vs => some (some (wholePart v.toNumber), vs)
      | .given, [] => none
    let found := (given width vs).bind fun (w, vs) ↦
      (given precision vs).bind fun (p, vs) ↦ match vs with
        | v :: vs => some (w, p, v, vs)
        | [] => none
    match found with
    | none =>
      tellLine ((← get).voice ++ ": run time error: not enough arguments passed to ".toList ++
        routine ++ "(\"".toList ++ format ++ "\")".toList ++ (← place))
      return ([], false)
    | some (w, p, v, vs) =>
      let c := conversionOf flags (w.getD 0) p letter
      let t ← match letter with
        | 'c' =>
          let isSpelled : Bool := match v with
            | .text t => (spelledNumber? t).isSome
            | _ => false
          if v.isNumber || (routine = "sprintf".toList && isSpelled) then
            pure (c.pad [Char.ofNat (signedPart v.toNumber % 256).toNat])
          else do
            let t ← asText v
            pure (c.pad (if t.isEmpty then ['\x00'] else t.take 1))
        | 's' => do
          let t ← asText v
          pure (c.pad (match c.precision with
            | some k => t.take k
            | none => t))
        | _ => pure (convertNumber c v.toNumber)
      let (t', ok) ← formatted routine format (count + 1) rest vs
      return (t ++ t', ok)

/-- A text that values make by a format. Where the format cannot be used, what has come before that
is handed to a function first. -/
def format (routine : Text) (vs : List Value) (rescue : Text → RunM Unit) : RunM Text := do
  match vs with
  | [] => return []
  | v :: vs =>
    let f ← asText v
    let (t, ok) ← formatted routine f 0 (formatParts (f.length + 1) [] f) vs
    if ok then return t
    rescue t
    modify fun r ↦ { r with status := 2 }
    throw .fails

/-- A random number below one. -/
def random : RunM Float := do
  let r ← get
  let next := (r.seed * 6364136223846793005 + 1442695040888963407) % Nat.pow 2 64
  set { r with seed := next }
  return Float.ofNat (next / Nat.pow 2 11) / Float.ofNat (Nat.pow 2 53)

/-- The result of an operation. -/
def compute (op : Operation) (x y : Float) : Float :=
  match op with
  | .add => x + y
  | .subtract => x - y
  | .multiply => x * y
  | .divide => x / y
  | .power => x ^ y
  | .remainder =>
    if x.isNaN || y.isNaN || x.isInf || y == 0 then 0 / 0
    else if y.isInf then x
    else
      let f := fractionOf x
      let g := fractionOf y
      let m := f.numerator * g.denominator
      let n := g.numerator * f.denominator
      let rest := Float.ofNat (m % n) / Float.ofNat (f.denominator * g.denominator)
      if x < 0 then -rest else rest

end RunM

end CommandScript.Shell.RuleScript
