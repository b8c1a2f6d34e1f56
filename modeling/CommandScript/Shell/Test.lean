import CommandScript.Shell.Expansion
import CommandScript.Shell.Opening
import CommandScript.Shell.Expression

/-!
# Tests

A condition tests one word or compares two. The commands `test` and `[` read one from their
arguments, of which the number decides how they are read; between double brackets it is a tree, its
texts are compared with patterns and expressions, and its numbers are computed.
-/
namespace CommandScript.Shell

/-! ### Single tests -/

/-- The node that an argument leads to. -/
def nodeOf? (s : State) (argument : Text) (through : Bool := true) : Option FileStore.Node :=
  if argument.isEmpty then none
  else match s.files.findNumber (pathOf argument) through with
    | .ok n => s.files.node? n
    | .error _ => none

/-- What an argument names that a test looks at. -/
inductive Sight where
  /-- A node of the store. -/
  | node (n : FileStore.Node)
  /-- What one of the own channels leads to where that is no file. -/
  | pipe

/-- What an argument names, if it is there. -/
def sightOf? (s : State) (argument : Text) : Option Sight :=
  match ownChannel? (pathOf argument) with
  | none => (nodeOf? s argument).map .node
  | some channel =>
    match s.conduitAt? channel with
    | none => none
    | some (.file n _ _ _ _) => (s.files.node? n).map .node
    | some .nothing => (nodeOf? s "/dev/null".toList).map .node
    | some _ => some .pipe

/-- Whether a variable, or a member of an array, has a value. -/
def hasValue (t : Text) : Act Bool := do
  match State.splitReference t with
  | (name, none) =>
    if isDigits name then return ((← get).value? name).isSome
    return isVariableName name && ((← get).value? name).isSome
  | (name, some subscript) =>
    if subscript = ['@'] ∨ subscript = ['*'] then
      return ((← arrayOf name).2.map fun v ↦ !v.members.isEmpty).getD false
    else return (← memberValue name subscript).isSome

/-- Whether a number is that of a channel that a file descriptor of a terminal is. There is no
terminal. -/
def isTerminal (_ : Text) : Bool := false

/-- The value of a test of one argument, where there is a test of that name. -/
def testOne (operator argument : Text) : Act (Option Bool) := do
  let s ← get
  let sight := sightOf? s argument
  let node : Option FileStore.Node := match sight with
    | some (.node n) => some n
    | _ => none
  let isLink := (ownChannel? (pathOf argument)).isSome && sight.isSome ||
    ((nodeOf? s argument false).map fun n ↦ n.content matches .link _).getD false
  let bit (mask : Nat) : Bool := (node.map fun n ↦ n.mode &&& mask != 0).getD false
  let answer (b : Bool) : Act (Option Bool) := return some b
  match String.ofList operator with
  | "-n" => answer !argument.isEmpty
  | "-z" => answer argument.isEmpty
  | "-e" | "-a" => answer sight.isSome
  | "-f" => answer (node.any FileStore.Node.isFile)
  | "-d" => answer (node.any FileStore.Node.isDirectory)
  | "-s" => answer (node.any fun n ↦ match n.content with
      | .file octets => !octets.isEmpty
      | .device => false
      | _ => true)
  | "-r" | "-w" | "-O" | "-G" => answer sight.isSome
  | "-N" => answer false
  | "-x" => answer (node.any fun n ↦ n.isDirectory || n.mode &&& 0o111 != 0)
  | "-h" | "-L" => answer isLink
  | "-c" => answer (node.any fun n ↦ n.content = .device)
  | "-p" => answer (sight matches some .pipe)
  | "-b" | "-S" => answer false
  | "-u" => answer (bit 0o4000)
  | "-g" => answer (bit 0o2000)
  | "-k" => answer (bit 0o1000)
  | "-t" => answer (isTerminal argument)
  | "-v" => if s.isStandard then return none else return some (← hasValue argument)
  | "-o" =>
    if s.isStandard then return none
    else answer (((Switch.ofName? argument).map s.isOn).getD false)
  | "-R" => answer ((s.stored? argument).any fun v ↦ v.attributes.reference && v.assigned)
  | _ => return none

/-- The value of a comparison of numbers, where there is one of that name. -/
def compareNumbers (operator : Text) (m n : Int) : Option Bool :=
  [("-eq".toList, m == n), ("-ne".toList, m != n), ("-lt".toList, decide (m < n)),
    ("-le".toList, decide (m ≤ n)), ("-gt".toList, decide (n < m)),
    ("-ge".toList, decide (n ≤ m))].lookup operator

/-- Whether one file is newer than another, which may lack. -/
def isNewer (left right : Option FileStore.Node) : Bool :=
  match left, right with
  | some a, some b => decide (b.stamp < a.stamp)
  | some _, none => true
  | none, _ => false

/-- The value of a comparison of files or texts, where there is one of that name. -/
def compareTexts (s : State) (left operator right : Text) : Option Bool :=
  let nodes := (nodeOf? s left, nodeOf? s right)
  let number (t : Text) : Option Nat := match s.files.findNumber (pathOf t) with
    | .ok n => some n
    | .error _ => none
  [("=".toList, left == right), ("!=".toList, left != right),
    ("<".toList, decide (String.ofList left < String.ofList right)),
    (">".toList, decide (String.ofList right < String.ofList left)),
    ("-ef".toList, nodes.1.isSome && number left == number right),
    ("-nt".toList, isNewer nodes.1 nodes.2),
    ("-ot".toList, isNewer nodes.2 nodes.1)].lookup operator

/-- Whether a text is the name of a comparison. -/
def isComparison (s : State) (t : Text) : Bool :=
  (compareTexts s [] t []).isSome || (compareNumbers t 0 0).isSome

/-! ### Arguments -/

/-- What a row of arguments comes to: a truth value, or what is wrong with it. -/
abbrev Tested := Except Text Bool

/-- The name of a comparison as it is written otherwise. -/
def usualOperator (s : State) (operator : Text) : Text :=
  if operator = "==".toList ∧ !s.isStandard then ['='] else operator

/-- The value of a comparison, where there is one of that name. -/
def testTwo (left operator right : Text) : Act (Option Tested) := do
  let s ← get
  let operator := usualOperator s operator
  match compareTexts s left operator right with
  | some value => return some (.ok value)
  | none =>
    let refused (t : Text) : Tested :=
      .error (if s.isStandard then "Illegal number: ".toList ++ t
        else t ++ ": integer expression expected".toList)
    match compareNumbers operator 0 0, wholeNumber? left, wholeNumber? right with
    | none, _, _ => return none
    | some _, none, _ => return some (refused left)
    | some _, some _, none => return some (refused right)
    | some _, some m, some n => return (compareNumbers operator m n).map .ok

/-- What is wrong where no test of one argument has a name. -/
def notUnary (s : State) (t : Text) : Tested :=
  .error (t ++ if s.isStandard then ": unexpected operator".toList
    else ": unary operator expected".toList)

/-- The value of at most three arguments. -/
def testFew : List Text → Act Tested
  | [] => return .ok false
  | [a] => return .ok !a.isEmpty
  | [a, b] => do
    if a = ['!'] then return .ok b.isEmpty
    else match ← testOne a b with
      | some value => return .ok value
      | none =>
        let s ← get
        if s.isStandard ∧ isComparison s b then return .error (b ++ ": argument expected".toList)
        return notUnary s a
  | [a, b, c] => do
    match ← testTwo a b c with
    | some value => return value
    | none =>
      let s ← get
      if b = "-a".toList then return .ok (!a.isEmpty && !c.isEmpty)
      else if b = "-o".toList then return .ok (!a.isEmpty || !c.isEmpty)
      else if a = ['!'] then return (← testFew [b, c]).map (!·)
      else if a = ['('] ∧ c = [')'] then return .ok !b.isEmpty
      else if s.isStandard then
        match ← testOne a b with
        | some _ => return .error (b ++ ": unexpected operator".toList)
        | none => return .error (a ++ ": unexpected operator".toList)
      else return .error (b ++ ": binary operator expected".toList)
  | _ => return .error "too many arguments".toList

/-- A part of a row of arguments that has been read: its value, and what is left. -/
abbrev TestRead := Except Text (Bool × List Text)

/-- Reads alternatives, conjunctions of terms, or single terms, by a level; the word that comes
after all arguments is known. -/
def testLevel (after : Option Text) : Nat → Nat → List Text → Act TestRead
  | 0, _, _ => return .error "too many arguments".toList
  | n + 1, 0, arguments => do
    let s ← get
    match arguments with
    | [] => return .error "argument expected".toList
    | ['!'] :: rest =>
      return (← testLevel after n 0 rest).map fun (value, left) ↦ (!value, left)
    | ['('] :: rest =>
      match ← testLevel after n 2 rest with
      | .error e => return .error e
      | .ok (value, [')'] :: left) => return .ok (value, left)
      | .ok (_, left) =>
        return .error ("\x60)' expected".toList ++ match left.head?.or after with
          | some t => ", found ".toList ++ t
          | none => [])
    | a :: b :: c :: rest =>
      match ← testTwo a b c with
      | some (.ok value) => return .ok (value, rest)
      | some (.error e) => return .error e
      | none =>
        match ← testOne a b with
        | some value => return .ok (value, c :: rest)
        | none => return .ok (!a.isEmpty, b :: c :: rest)
    | [a, b] =>
      match ← testOne a b with
      | some value => return .ok (value, [])
      | none => return .ok (!a.isEmpty, [b])
    | [a] =>
      if s.isStandard ∨ (← testOne a []).isNone ∨ !isDashed a then return .ok (!a.isEmpty, [])
      else return .error "argument expected".toList
  | n + 1, level + 1, arguments => do
    let sign := (if level = 0 then "-a" else "-o").toList
    match ← testLevel after n level arguments with
    | .error e => return .error e
    | .ok (value, first :: rest) =>
      if first = sign then
        match ← testLevel after n (level + 1) rest with
        | .error e => return .error e
        | .ok (other, left) =>
          return .ok (if level = 0 then value && other else value || other, left)
      else return .ok (value, first :: rest)
    | found => return found
where
  /-- Whether an argument looks like a test. -/
  isDashed (a : Text) : Bool := a.head? = some '-' && a.length = 2

/-- The value of any number of arguments. -/
def testAll (after : Option Text) (arguments : List Text) : Act Tested := do
  let whole (arguments : List Text) : Act Tested := do
    match ← testLevel after (4 * arguments.length + 8) 2 arguments with
    | .error e => return .error e
    | .ok (value, []) => return .ok value
    | .ok (_, left) =>
      if (← get).isStandard then
        let used := arguments.take (arguments.length - left.length)
        return .error ((used.getLast?).getD [] ++ ": unexpected operator".toList)
      else return .error "too many arguments".toList
  match arguments with
  | [['!'], a, b, c] => return (← testFew [a, b, c]).map (!·)
  | [['('], a, b, [')']] => testFew [a, b]
  | arguments => if arguments.length ≤ 3 then testFew arguments else whole arguments

/-- The command `test`, under a name for what is said about it. -/
def testAs (name : String) (after : Option Text) : Utility := fun arguments ↦ do
  match ← testAll after arguments with
  | .ok value => return if value then 0 else 1
  | .error message => failWith 2 (name.toList ++ ": ".toList ++ message)

/-- The command `[`, which asks for a closing bracket. -/
def testBracket : Utility := fun arguments ↦ do
  if arguments.getLast? = some [']'] then testAs "[" (some [']']) arguments.dropLast
  else failWith 2 ("[: missing ".toList ++
    if (← get).isStandard then [']'] else "\x60]'".toList)

/-! ### Conditions between double brackets -/

section Conditions

variable (run : Runner) (trace : Text → Act Unit)

/-- A text with a backslash before each character that is not to have a meaning. -/
def escapedMarks (m : Marked) : Text :=
  m.flatMap fun (c, meaningful) ↦ if meaningful then [c] else ['\\', c]

/-- A text of a condition as a trace shows it. -/
def shownOperand (t : Text) : Text := if t.isEmpty then "''".toList else t

/-- The source of the regular expression that a marked text is. -/
def expressionSource (m : Marked) : Text :=
  m.flatMap fun (c, meaningful) ↦
    if meaningful || !(".[]*^$+?()|\\\x7b\x7d".toList.contains c) then [c] else ['\\', c]

/-- Compares a text with a regular expression, and keeps what its groups have matched. -/
def matchExpression (left : Text) (m : Marked) : Act Tested := do
  let s ← get
  match Expression.read .extended (wide (expressionSource m)) with
  | .error _ => return .error []
  | .ok e =>
    let e := if s.hasFeature "nocasematch" then e.eitherCase else e
    let t := (wide left).toArray
    let found := e.find? t 0
    let texts := (found.map fun m ↦ m.texts t e.groupCount).getD []
    assignMembers "BASH_REMATCH".toList false (texts.map fun t ↦ .next (narrow t))
    return .ok found.isSome

/-- The value of a comparison between double brackets. -/
def conditionTwo (left : Word) (operator : Text) (right : Word) : Act Tested := do
  let l ← wordText run left
  let traceWith (r : Text) : Act Unit :=
    trace ("[[ ".toList ++ shownOperand l ++ ' ' :: operator ++ ' ' :: shownOperand r ++
      " ]]".toList)
  match String.ofList operator with
  | "=" | "==" | "!=" =>
    let m ← wordMarked run right
    traceWith (escapedMarks m)
    let fits := (← patternOf true m).fits (wide l)
    return .ok (if operator = "!=".toList then !fits else fits)
  | "=~" =>
    let m ← wordMarked run right
    traceWith m.text
    matchExpression l m
  | _ =>
    let r ← wordText run right
    traceWith r
    let s ← get
    match compareTexts s l operator r with
    | some value => return .ok value
    | none =>
      let result ← attempt (speakingAs "[[" do
        let m ← arithmetic l
        let n ← arithmetic r
        return (compareNumbers operator m n).getD false)
      match result with
      | .ok value => return .ok value
      | .error .valueless => return .ok false
      | .error leave => throw leave

/-- The value of a condition between double brackets. -/
def conditionValue : Condition → Act Tested
  | .word w => do
    let t ← wordText run w
    trace ("[[ -n ".toList ++ shownOperand t ++ " ]]".toList)
    return .ok !t.isEmpty
  | .unary operator w => do
    let t ← wordText run w
    trace ("[[ ".toList ++ operator ++ ' ' :: shownOperand t ++ " ]]".toList)
    return .ok ((← testOne operator t).getD false)
  | .binary left operator right => conditionTwo run trace left operator right
  | .negated c => do return (← conditionValue c).map (!·)
  | .enclosed c => conditionValue c
  | .both left right => do
    match ← conditionValue left with
    | .ok true => conditionValue right
    | found => return found
  | .either left right => do
    match ← conditionValue left with
    | .ok false => conditionValue right
    | found => return found

end Conditions

end CommandScript.Shell
