import CommandScript.Shell.State

/-!
# Variables by name

Looking up variables and parameters by their names, and changing them. Some variables are computed
from the state; some change when they are looked at. A variable that refers to another one stands
for that.
-/
namespace CommandScript.Shell

/-- A variable that holds a text. -/
def Variable.ofText (t : Text) : Variable := { content := .text t }

/-- A variable that holds a list. -/
def Variable.ofList (ts : List Text) : Variable :=
  { content := .list (ts.zipIdx.map fun (t, i) ↦ (i, t)) }

/-- A variable that has only been declared. -/
def Variable.blank : Variable := { content := .text [], assigned := false }

namespace Scope

/-- The scope with a variable set. -/
def insert (scope : Scope) (name : Text) (v : Variable) : Scope :=
  { scope with bindings :=
      if (scope.bindings.lookup name).isSome then
        scope.bindings.map fun e ↦ if e.1 = name then (name, v) else e
      else (name, v) :: scope.bindings }

/-- The scope without a variable. -/
def erase (scope : Scope) (name : Text) : Scope :=
  { scope with bindings := scope.bindings.filter fun e ↦ e.1 != name }

/-- Whether a scope has a variable. -/
def has (scope : Scope) (name : Text) : Bool := (scope.bindings.lookup name).isSome

end Scope

/-- Scopes with a variable set in the innermost one that has it, or else in the outermost one. -/
def insertInto (name : Text) (v : Variable) : List Scope → List Scope
  | [] => []
  | [scope] => [scope.insert name v]
  | scope :: rest =>
    if scope.has name then scope.insert name v :: rest else scope :: insertInto name v rest

/-- Scopes without a variable in the innermost one that has it. In a function, where the variable is
local, it stays as one that has not been assigned. -/
def eraseFrom (name : Text) : Bool → List Scope → List Scope
  | _, [] => []
  | isInnermost, scope :: rest =>
    if scope.has name then
      (if scope.kind = .function ∧ isInnermost then scope.insert name .blank
        else scope.erase name) :: rest
    else scope :: eraseFrom name (isInnermost && scope.kind = .command) rest

namespace State

/-- A variable that is kept under a name. -/
def stored? (s : State) (name : Text) : Option Variable :=
  s.scopes.findSome? fun scope ↦ scope.bindings.lookup name

/-- The names of the features that are on, as one text. -/
def featureText (s : State) : Text :=
  [':'].intercalate ((featureNames.filter s.features.contains).map String.toList)

/-- A variable that is computed from the state. -/
def computed? (s : State) (name : Text) : Option Variable :=
  if s.isStandard then none
  else
    let number (n : Nat) : Option Variable := some (.ofText (shown n))
    match String.ofList name with
    | "LINENO" => number s.line
    | "BASHPID" => number s.process
    | "HISTCMD" => number 0
    | "BASH_SUBSHELL" => number (if s.awaited = .stage then s.subshells - 1 else s.subshells)
    | "BASH_COMMAND" => some (.ofText s.command)
    | "SHELLOPTS" => some { Variable.ofText s.switchNames with attributes := { fixed := true } }
    | "BASHOPTS" => some { Variable.ofText s.featureText with attributes := { fixed := true } }
    | "PIPESTATUS" => some (.ofList (s.statuses.map shown))
    | "FUNCNAME" => if s.inFunction then some (.ofList s.functionNames) else none
    | "BASH_SOURCE" =>
      some (.ofList (s.frames.map (·.origin) ++
        (if s.origin.contains 'c' then [] else [s.called])))
    | "BASH_LINENO" =>
      some (.ofList (s.frames.map (fun f ↦ shown f.line) ++
        (if s.origin.contains 'c' then [] else [['0']])))
    | "DIRSTACK" => some (.ofList (s.directory :: s.stack))
    | "GROUPS" => some (.ofList [['0']])
    | "BASH_ALIASES" => some { content := .map s.aliases }
    | _ => none

/-- The name that a name refers to, which may be that of a member of an array. -/
def referredFrom (s : State) : Nat → Text → Text
  | 0, name => name
  | n + 1, name =>
    match s.stored? name with
    | some v =>
      if v.attributes.reference then
        match v.value? with
        | some target => if target.isEmpty ∨ target = name then name else referredFrom s n target
        | none => name
      else name
    | none => name

/-- The name that a name refers to. -/
def referred (s : State) (name : Text) : Text := s.referredFrom 8 name

/-- The name and the subscript of a reference. -/
def splitReference (name : Text) : Text × Option Text :=
  let base := name.takeWhile (· != '[')
  match name.drop base.length with
  | [] => (base, none)
  | rest => (base, some (rest.drop 1).dropLast)

/-- The variable of a name. -/
def variableOf? (s : State) (name : Text) : Option Variable :=
  let name := s.referred name
  match splitReference name with
  | (name, none) => (s.computed? name).or (s.stored? name)
  | (name, some subscript) =>
    (s.stored? name).bind fun v ↦
      (v.content.member? (match v.content with
        | .map _ => .text subscript
        | _ => .number (Text.digitsValue subscript))).map Variable.ofText

/-- The value of a special parameter, if the name is that of one. -/
def special? (s : State) (name : Text) : Option (Option Text) :=
  match name with
  | ['?'] => some (some (shown s.status))
  | ['$'] => some (some (shown s.shellProcess))
  | ['#'] => some (some (shown s.arguments.length))
  | ['!'] => some (s.beside.map shown)
  | ['-'] => some (some s.switchLetters)
  | ['@'] => some (if s.arguments.isEmpty then none else some ([' '].intercalate s.arguments))
  | ['*'] => some (if s.arguments.isEmpty then none else some ([' '].intercalate s.arguments))
  | _ =>
    if isDigits name then
      match Text.digitsValue name with
      | 0 => some (some s.called)
      | n + 1 => some s.arguments[n]?
    else none

/-- The value of a parameter or a variable, if it has one. -/
def value? (s : State) (name : Text) : Option Text :=
  match s.special? name with
  | some value => value
  | none => (s.variableOf? name).bind Variable.value?

/-- The value of a variable of a known name, or nothing. -/
def valueOf (s : State) (name : String) : Text := (s.value? name.toList).getD []

/-- The state with a variable set as it is. -/
def put (s : State) (name : Text) (v : Variable) : State :=
  { s with scopes := insertInto name v s.scopes }

/-- The state with a variable set to a text, whatever it was. -/
def putText (s : State) (name : String) (t : Text) : State :=
  let old := s.stored? name.toList
  s.put name.toList
    { Variable.ofText t with attributes := (old.map Variable.attributes).getD {} }

/-- The state without a variable. -/
def drop (s : State) (name : Text) : State :=
  { s with scopes := eraseFrom name s.inFunction s.scopes }

/-- The state with a variable in the innermost scope of a function. -/
def putLocal (s : State) (name : Text) (v : Variable) : State :=
  let rec go : List Scope → List Scope
    | [] => []
    | scope :: rest =>
      if scope.kind = .command then scope :: go rest else scope.insert name v :: rest
  { s with scopes := go s.scopes }

/-- The variable of the innermost function under a name. -/
def local? (s : State) (name : Text) : Option Variable :=
  ((s.scopes.find? fun scope ↦ scope.kind != .command).filter fun scope ↦
    scope.kind = .function).bind fun scope ↦ scope.bindings.lookup name

/-- Every variable that is not hidden by another one, by name. -/
def everyVariable (s : State) : List (Text × Variable) :=
  let all := s.scopes.foldl (fun (found : List (Text × Variable)) scope ↦
    found ++ scope.bindings.filter fun e ↦ (found.lookup e.1).isNone) []
  all.mergeSort fun a b ↦ decide (String.ofList a.1 ≤ String.ofList b.1)

/-- The variables that programs see, in no particular order. -/
def environment (s : State) : List (Text × Text) :=
  (s.scopes.foldl (fun (found : List (Text × Variable)) scope ↦
    found ++ scope.bindings.filter fun e ↦ (found.lookup e.1).isNone) []).filterMap fun (name, v) ↦
      if v.attributes.exported ∧ !v.isArray then v.value?.map fun value ↦ (name, value) else none

end State

/-- The next number of the random row after a number. -/
def nextRandom (n : Nat) : Nat :=
  let n : Int := if n = 0 then 123459876 else n
  let high := n / 127773
  let low := n - 127773 * high
  let t := 16807 * low - 2836 * high
  (if t < 0 then t + 0x7FFFFFFF else t).toNat

/-- A random number, and the row after it. -/
def randomOf (seed : Nat) : Nat × Nat :=
  let next := nextRandom seed
  (((next >>> 16) ^^^ (next &&& 0xFFFF)) &&& 0x7FFF, next)

/-- Lets a random number be looked at: a variable of that name gets the next one of its row. -/
def refreshRandom (name : Text) : Act Unit := do
  let s ← get
  if name = "RANDOM".toList ∧ !s.isStandard ∧ (s.stored? name).isSome then
    let (n, seed) := randomOf s.seed
    set ({ s with seed := seed }.put name (.ofText (shown n)))

/-- The value of a parameter or a variable, if it has one. -/
def lookup? (name : Text) : Act (Option Text) := do
  refreshRandom name
  return (← get).value? name

/-- What becomes of a value that is assigned to a variable with attributes for letters. -/
def Attributes.shape (a : Attributes) (t : Text) : Text :=
  if a.lower then t.map Char.toLower
  else if a.upper then t.map Char.toUpper
  else if a.capital then match t with
    | [] => []
    | c :: rest => c.toUpper :: rest.map Char.toLower
  else t

/-- The variables that keep the values that the shell gives them, whatever is assigned. -/
def steadyNames : List String := ["FUNCNAME", "LINENO", "BASHPID", "BASH_SUBSHELL", "BASH_COMMAND",
  "PIPESTATUS", "BASH_SOURCE", "BASH_LINENO", "GROUPS", "DIRSTACK"]

/-- Gives a variable a content that needs no more computing, with the effects that some variables
have. -/
def store (name : Text) (v : Variable) : Act Unit := do
  let s ← get
  if !s.isStandard ∧ steadyNames.contains (String.ofList name) then return
  let attributes :=
    if s.isOn .allexport then { v.attributes with exported := true } else v.attributes
  let s := s.put name { v with attributes := attributes }
  let s := if name = "RANDOM".toList then
      { s with seed := Text.digitsValue ((v.value?.getD []).filter Char.isDigit) }
    else if name = "OPTIND".toList then { s with optionPlace := 0 }
    else if name = "PATH".toList then { s with hashed := [] }
    else s
  set s

/-- Leaves, or gives a failure, where a variable keeps its value. -/
def refuseFixed {α : Type} (name : Text) : Act α := do
  refuse .drops (name ++ if (← get).isStandard then ": is read only".toList
    else ": readonly variable".toList)

/-- Whether a variable keeps its value. -/
def isFixed (name : Text) : Act Bool := do
  let s ← get
  return ((s.computed? name).or (s.stored? name)).any fun v ↦ v.attributes.fixed

end CommandScript.Shell
