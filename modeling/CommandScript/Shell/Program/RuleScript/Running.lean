import CommandScript.Shell.Calendar
import CommandScript.Shell.Program.RuleScript.Evaluation

/-!
# What rule scripts do

A term is evaluated to a value, and a statement is done. A function that is called has variables of
its own. A variable that nothing has been assigned to is handed over to a function together with the
table that it may become, so that both have the same one then.

Every evaluation has a bound on how deep it goes, which each round of a loop counts for as well.
-/
namespace CommandScript.Shell.RuleScript

/-- How many parameters all functions under way may have. -/
def maxDepth : Nat := 1000

/-- How many functions may be under way before the process is ended. -/
def maxCalls : Nat := 100000

/-- The moment that a text describes with six numbers, and a seventh one above zero where clocks are
an hour ahead. -/
def countedMoment (t : Text) : Int :=
  let numbers := (wordsOf t).map fun w ↦ wholePart (textNumber w)
  match numbers with
  | year :: month :: day :: hour :: minute :: second :: rest =>
    let months := year * 12 + month - 1
    let days := (Day.number ⟨months / 12, (months % 12).toNat + 1, 1⟩) + day - 1
    let ahead := if rest.head?.any (0 < ·) then 3600 else 0
    days * 86400 + hour * 3600 + minute * 60 + second - ahead
  | _ => -1

/-- A moment as a format writes it, or as usual where the format is empty. -/
def shownMoment (format : Text) (moment : Int) (isUniversal : Bool) : Text :=
  let format := if format.isEmpty then "%c".toList else format
  let named := if isUniversal then replaceZone (format.length + 1) format else format
  formatMoment moment none (named.length + 1) named
where
  /-- A format with the name of the universal time in it. -/
  replaceZone : Nat → Text → Text
    | n + 1, '%' :: 'Z' :: rest => "GMT".toList ++ replaceZone n rest
    | n + 1, '%' :: c :: rest => '%' :: c :: replaceZone n rest
    | n + 1, c :: rest => c :: replaceZone n rest
    | _, _ => []

/-- Where a text occurs in another one, counted from one; zero where it does not. -/
def indexOf (t u : Text) : Nat :=
  let rec go (i : Nat) : Text → Nat
    | [] => if u.isEmpty then i else 0
    | c :: rest => if u.isPrefixOf (c :: rest) then i else go (i + 1) rest
  go 1 t

namespace RunM

/-- The result of a function of numbers. -/
def ofNumber (f : Float → Float) (vs : List Value) : Value :=
  .number (f ((vs.head?.map Value.toNumber).getD 0))

/-- What a function gets for a term that is nothing but a variable, if it is more than its value. -/
def shared? (s : Slot) : RunM (Option Cell) := do
  match ← cell s with
  | .value .unset =>
    let r ← get
    let id := r.tables.size
    set { r with tables := r.tables.push {} }
    setCell s (.free id)
    return some (.free id)
  | .value _ => return none
  | c => return some c

section Running

variable (script : RuleScript) (launch : Launch) (run : Runner)

/-- The next record of the inputs of a script. -/
def usualRecord : RunM (Option Text) := do
  let count := wholePart (← valueOf "ARGC").toNumber
  nextRecord script.names (2 * count.toNat + 10)

/-- The result of a routine that needs nothing but values. -/
def ofValues (r : Routine) (vs : List Value) : RunM Value := do
  let text (i : Nat) : RunM Text := asText ((vs[i]?).getD .unset)
  let number (i : Nat) : Option Float := (vs[i]?).map Value.toNumber
  match r with
  | .length => return .ofNat (← text 0).length
  | .index => return .ofNat (indexOf (← text 0) (← text 1))
  | .part =>
    return .text (partOf (← text 0) (wholePart ((number 1).getD 0)) ((number 2).map wholePart))
  | .format => return .text (← format "sprintf".toList vs fun _ ↦ pure ())
  | .upper => return .text ((← text 0).map Char.toUpper)
  | .lower => return .text ((← text 0).map Char.toLower)
  | .sine => return ofNumber Float.sin vs
  | .cosine => return ofNumber Float.cos vs
  | .angle => return .number (Float.atan2 ((number 0).getD 0) ((number 1).getD 0))
  | .exponential => return ofNumber Float.exp vs
  | .logarithm => return ofNumber Float.log vs
  | .root => return ofNumber Float.sqrt vs
  | .whole => return ofNumber (fun x ↦ if x < 0 then x.ceil else x.floor) vs
  | .random => return .number (← random)
  | .seed => do
    let old := (← get).seeded
    let new := (vs.head?).getD .unset
    let start := (wholePart new.toNumber).natAbs
    let moment := if vs.isEmpty then Float.ofInt presentMoment else new.toNumber
    modify fun r ↦ { r with seed := start, seeded := .number moment }
    return old
  | .close => close launch run (← text 0)
  | .system => return .ofNat (← command launch run "sh" none (← text 0))
  | .flush => do
    let isKnown ← if vs.isEmpty then pure true else do
      let name ← text 0
      pure ((← get).sinks.any (·.name = name))
    handOver
    return .number (if isKnown then 0 else -1)
  | .moment => return .number (Float.ofInt presentMoment)
  | .showMoment => do
    let format ← text 0
    let moment := ((number 1).map wholePart).getD presentMoment
    return .text (shownMoment format moment ((vs[2]?).any Value.holds))
  | .readMoment => return .number (Float.ofInt (countedMoment (← text 0)))
  | _ => return .unset

/-- Cuts a text into a table, and gives the number of the parts. -/
def splitInto (id : Nat) (t : Text) (separator : Separator) : RunM Value := do
  let parts := separator.parts t
  setTable id (Table.ofList (parts.map Value.input))
  return .ofNat parts.length

/-- Looks for an expression in a text, and gives where it is. -/
def findIn (t : Text) (e : Expression) : RunM Value := do
  let (start, length) : Value × Value := match e.find? t.toArray 0 with
    | some m => (.ofNat (m.span.1 + 1), .ofNat (m.span.2 - m.span.1))
    | none => (.number 0, .number (-1))
  setSpecial "RSTART" start
  setSpecial "RLENGTH" length
  return start

/-- A text with the first match or all matches replaced, and how many there are. -/
def replaced (isAll : Bool) (e : Expression) (replacement t : Text) : Nat × Text :=
  let a := t.toArray
  let found := if isAll then e.everyMatch a else (e.find? a 0).toList
  (found.length, replaceMatches a replacement 0 found)

mutual

/-- The value of a term. -/
def value : Nat → Term → RunM Value
  | 0, _ => throw .fails
  | n + 1, t => do
    match t with
    | .number x => return .number x
    | .text t => return .text t
    | .pattern e => do
      let t ← asText (← fetch (.field 0))
      return .ofBool (e.occurs t)
    | .fetch p => do fetch (← spot n p)
    | .assign p v => do
      let s ← spot n p
      let v ← value n v
      store s v
      return v
    | .change op p v => do
      let s ← spot n p
      let x := (← value n v).toNumber
      let v : Value := .number (compute op (← fetch s).toNumber x)
      store s v
      return v
    | .step p isUp isNew => do
      let s ← spot n p
      let old := (← fetch s).toNumber
      let new := if isUp then old + 1 else old - 1
      store s (.number new)
      return .number (if isNew then new else old)
    | .choice c a b => do if (← value n c).holds then value n a else value n b
    | .both a b => do
      if (← value n a).holds then return .ofBool (← value n b).holds else return .ofBool false
    | .oneOf a b => do
      if (← value n a).holds then return .ofBool true else return .ofBool (← value n b).holds
    | .negation a => do return .ofBool (!(← value n a).holds)
    | .isIn keys table => do
      let k ← keyOf (← keys.mapM (value n))
      let id ← tableOf table
      let (found, t) := (← RunM.table id).find false k
      setTable id t
      return .ofBool found.isSome
    | .occurs t p => do
      let t ← asText (← value n t)
      return .ofBool ((← expression n p).occurs t)
    | .compare r a b => do
      let x ← value n a
      let y ← value n b
      let format := (← valueOf "CONVFMT").toText usualFormat
      return .ofBool (r.holds (x.compare format y))
    | .join a b => do
      let x ← asText (← value n a)
      return .text (x ++ (← asText (← value n b)))
    | .compute op a b => do
      let x := (← value n a).toNumber
      return .number (compute op x (← value n b).toNumber)
    | .minus a => do return .number (-(← value n a).toNumber)
    | .plus a => do return .number (← value n a).toNumber
    | .call f arguments => callFunction n f arguments
    | .routine r arguments => routine n r arguments
    | .read source into => readRecord n source into

/-- The place of a target. -/
def spot : Nat → Target → RunM Spot
  | 0, _ => throw .fails
  | _ + 1, .variable s => return .variable s
  | n + 1, .element table keys => do
    let k ← keyOf (← keys.mapM (value n))
    return .element (← tableOf table) k
  | n + 1, .field t => do return .field (← fieldNumber (← value n t))

/-- The expression that a term stands for. -/
def expression : Nat → Term → RunM Expression
  | 0, _ => throw .fails
  | _ + 1, .pattern e => return e
  | n + 1, t => do patternOf (← asText (← value n t))

/-- The result of a call of a function. -/
def callFunction : Nat → Text → List Term → RunM Value
  | 0, _, _ => throw .fails
  | n + 1, f, arguments => do
    let cells ← arguments.mapM fun a ↦ do
      let shared ← match a with
        | .fetch (.variable s) => shared? s
        | _ => pure none
      match shared with
      | some c => return c
      | none => return Cell.value (← value n a)
    match script.procedures.lookup f with
    | none => return .unset
    | some p =>
      let outer ← get
      let depth := outer.depth + p.arity
      if maxDepth < depth then
        refuse "program limit exceeded: eval stack size=1024".toList
      if maxCalls < outer.calls then (throw (.killed Signal.fault) : Act Unit)
      let own := cells ++ List.replicate (p.arity - cells.length) (.value .unset)
      set { outer with own := own.toArray, depth, calls := outer.calls + 1 }
      let result ← tryCatch (do perform n p.body; pure Value.unset) fun
        | .gives v => return v
        | stop => throw stop
      modify fun r ↦ { r with own := outer.own, depth := outer.depth, calls := outer.calls }
      return result

/-- The result of a routine. -/
def routine : Nat → Routine → List Term → RunM Value
  | 0, _, _ => throw .fails
  | n + 1, r, arguments => do
    match r, arguments with
    | .length, [] => return .ofNat (← asText (← fetch (.field 0))).length
    | .length, [.fetch (.variable s)] =>
      match ← cell s with
      | .table id => return .ofNat (← RunM.table id).size
      | .free id => return .ofNat (← RunM.table id).size
      | .value _ => return .ofNat (← asText (← fetch (.variable s))).length
    | .split, t :: .fetch (.variable s) :: others => do
      let t ← asText (← value n t)
      let separator ← match others with
        | [] => separatorOf (← textOf "FS")
        | .pattern e :: _ => pure (.matching e)
        | a :: _ => separatorOf (← asText (← value n a))
      splitInto (← tableOf s) t separator
    | .find, [t, p] => do
      let t ← asText (← value n t)
      findIn t (← expression n p)
    | .replaceFirst, arguments => replace n false arguments
    | .replaceAll, arguments => replace n true arguments
    | r, arguments => do ofValues launch run r (← arguments.mapM (value n))

/-- Replaces matches in a target. -/
def replace : Nat → Bool → List Term → RunM Value
  | 0, _, _ => throw .fails
  | n + 1, isAll, arguments => do
    match arguments with
    | p :: replacement :: others =>
      let e ← expression n p
      let replacement ← asText (← value n replacement)
      let s ← match others with
        | .fetch p :: _ => spot n p
        | _ => pure (.field 0)
      let t ← asText (← fetch s)
      let (count, t) := replaced isAll e replacement t
      if count ≠ 0 then store s (.text t)
      return .ofNat count
    | _ => return .number 0

/-- Reads a record, and gives one; zero where there is none, and less where it cannot be read. -/
def readRecord : Nat → RecordSource → Option Target → RunM Value
  | 0, _, _ => throw .fails
  | n + 1, source, into => do
    let record ← match source with
      | .usual => do
        let found ← usualRecord script
        pure (.ok found)
      | .file name => do sourceRecord launch run false (← asText (← value n name))
      | .command line => do sourceRecord launch run true (← asText (← value n line))
    match record with
    | .error () => return .number (-1)
    | .ok none => return .number 0
    | .ok (some t) =>
      match into with
      | none => setRecord (.input t)
      | some p => store (← spot n p) (.input t)
      return .number 1

/-- Does what a statement says. -/
def perform : Nat → Statement → RunM Unit
  | 0, _ => throw .fails
  | n + 1, s => do
    match s with
    | .nothing => return
    | .group all => all.forM (perform n)
    | .alone t => do let _ ← value n t
    | .print isFormat values aim => do
      let vs ← values.mapM (value n)
      let aim ← match aim with
        | none => pure none
        | some (outlet, name) => do pure (some (outlet, ← asText (← value n name)))
      let t ← if isFormat then format "printf".toList vs (emit aim)
        else do
          let format := (← valueOf "OFMT").toText usualFormat
          let parts ← if vs.isEmpty then do pure [← asText (← fetch (.field 0))]
            else pure (vs.map (Value.toText format))
          pure ((← textOf "OFS").intercalate parts ++ (← textOf "ORS"))
      emit aim t
    | .choice c a b => do if (← value n c).holds then perform n a else perform n b
    | .loop c body => repeatWhile n (some c) .nothing body
    | .atLeastOnce body c => do if ← round n body then repeatWhile n (some c) .nothing body
    | .count start c next body => do
      perform n start
      repeatWhile n c next body
    | .each p table body => do
      let id ← tableOf table
      let (keys, t) := (← RunM.table id).keys
      setTable id t
      forEach n p keys body
    | .leave => throw .leaves
    | .skip => throw .skips
    | .nextRecord => throw .nextRecord
    | .nextInput => throw .nextInput
    | .exit status => do
      match status with
      | some t =>
        let status := wholePart (← value n t).toNumber
        modify fun r ↦ { r with status := (status % 256).toNat }
      | none => pure ()
      throw .exits
    | .giveBack v => do
      match v with
      | some t => throw (.gives (← value n t))
      | none => throw (.gives .unset)
    | .erase table keys => do
      let id ← tableOf table
      if keys.isEmpty then setTable id {}
      else
        let k ← keyOf (← keys.mapM (value n))
        setTable id ((← RunM.table id).erase k)

/-- A round of a loop. Gives whether the loop goes on. -/
def round : Nat → Statement → RunM Bool
  | 0, _ => throw .fails
  | n + 1, body =>
    tryCatch (do perform n body; pure true) fun
      | .leaves => return false
      | .skips => return true
      | stop => throw stop

/-- The rounds of a loop, as long as a term holds. -/
def repeatWhile : Nat → Option Term → Statement → Statement → RunM Unit
  | 0, _, _, _ => throw .fails
  | n + 1, c, next, body => do
    let holds ← match c with
      | some t => do pure (← value n t).holds
      | none => pure true
    if holds then
      if ← round n body then
        perform n next
        repeatWhile n c next body

/-- The rounds of a loop over keys. -/
def forEach : Nat → Target → List Text → Statement → RunM Unit
  | 0, _, _, _ => throw .fails
  | _ + 1, _, [], _ => return
  | n + 1, p, k :: keys, body => do
    store (← spot n p) (.text k)
    if ← round n body then forEach n p keys body

end

/-- A bound on the depth of all evaluations. -/
def fuel : Nat := 10000000

/-- Whether a rule is done for the record. -/
def applies (i : Nat) : Condition → RunM Bool
  | .always => return true
  | .when t => do return (← value script launch run fuel t).holds
  | .between a b => do
    let isUnderWay := (← get).ranges.contains i
    if !isUnderWay ∧ !(← value script launch run fuel a).holds then return false
    let ends := (← value script launch run fuel b).holds
    modify fun r ↦
      let others := r.ranges.filter (· != i)
      { r with ranges := if ends then others else i :: others }
    return true

/-- Does all rules for the record. -/
def applyRules : RunM Unit := do
  for (c, body) in script.rules.toList, i in List.range script.rules.size do
    if ← applies script launch run i c then perform script launch run fuel body

/-- Does all rules for all records. -/
def applyToAll : Nat → RunM Unit
  | 0 => throw .fails
  | n + 1 => do
    match ← usualRecord script with
    | none => return
    | some t =>
      setRecord (.input t)
      tryCatch (applyRules script launch run) fun
        | .nextRecord => return
        | .nextInput => modify fun r ↦ { r with current := none }
        | stop => throw stop
      applyToAll n

/-- Does something up to where the run ends. Gives whether it goes on. -/
def untilExit (act : RunM Unit) : RunM Bool :=
  tryCatch (do act; pure true) fun
    | .exits => return false
    | .fails => throw .fails
    | _ => return true

/-- A whole run. -/
def runAll : RunM Unit := do
  let all (statements : List Statement) : RunM Unit :=
    statements.forM (perform script launch run fuel)
  let finish : RunM Unit := do
    if ← untilExit (all script.first) then
      if !script.rules.isEmpty ∨ !script.last.isEmpty then
        if ← untilExit (applyToAll script launch run fuel) then pure ()
    let _ ← untilExit (all script.last)
  tryCatch finish fun _ ↦ pure ()
  closeAll launch run

end Running

end RunM

end CommandScript.Shell.RuleScript
