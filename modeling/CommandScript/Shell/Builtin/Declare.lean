import CommandScript.Shell.Builtin.Usage
import CommandScript.Shell.Expansion
import CommandScript.Shell.Printer

/-!
# Commands that declare

Giving variables attributes, and values along with them, in the scope that a command is for;
removing variables and functions; and listing all of these as commands that would make them again.
-/
namespace CommandScript.Shell

/-- An argument of a command that declares. -/
inductive Declared where
  /-- A name, perhaps with a value after a sign. -/
  | word (t : Text)
  /-- An array that gets members. -/
  | members (name : Text) (adds : Bool) (members : List Member)
  deriving DecidableEq, Repr

/-- The scope that a command declares in. -/
inductive Reach where
  /-- The function under way. -/
  | inner
  /-- The whole shell. -/
  | whole
  /-- Wherever the variable is. -/
  | usual
  deriving DecidableEq, Repr

/-- What a command declares. -/
structure Declaration where
  /-- The name of the command. -/
  command : String
  /-- The letters of the attributes that are given. -/
  given : Text
  /-- The letters of the attributes that are taken away. -/
  taken : Text
  /-- The scope. -/
  reach : Reach
  deriving DecidableEq, Repr

namespace Declaration

/-- The attributes after a declaration. Those for letters shut each other out. -/
def attributes (d : Declaration) (a : Attributes) : Attributes :=
  let turn (letter : Char) (old : Bool) : Bool :=
    if d.given.contains letter then true else if d.taken.contains letter then false else old
  let letters := d.given.any fun c ↦ "luc".toList.contains c
  let turnCase (letter : Char) (old : Bool) : Bool :=
    if letters then d.given.contains letter else turn letter old
  { exported := turn 'x' a.exported, fixed := turn 'r' a.fixed, computed := turn 'i' a.computed
    lower := turnCase 'l' a.lower, upper := turnCase 'u' a.upper, capital := turnCase 'c' a.capital
    reference := turn 'n' a.reference, traced := turn 't' a.traced }

/-- What is said before the words about a variable that keeps its value. -/
def voice (d : Declaration) : Text :=
  if ["declare", "typeset", "local"].contains d.command then d.command.toList ++ ": ".toList
  else []

/-- The content that a variable has in the form that is asked for, or what is wrong with it. -/
def reshape (d : Declaration) (v : Variable) : Except String Content :=
  if d.given.contains 'A' then
    match v.content with
    | .text t => .ok (.map (if v.assigned then [(['0'], t)] else []))
    | .list ms => if v.assigned then .error "cannot convert indexed to associative array"
      else .ok (.map (ms.map fun m ↦ (shown m.1, m.2)))
    | content => .ok content
  else if d.given.contains 'a' then
    match v.content with
    | .text t => .ok (.list (if v.assigned then [(0, t)] else []))
    | .map _ => .error "cannot convert associative to indexed array"
    | content => .ok content
  else .ok v.content

end Declaration

/-- The target at the start of an argument, and the value after its sign. -/
def splitDeclared (t : Text) : Target × Option Text :=
  let name := t.takeWhile withinName
  let (subscript, after) : Option Text × Text := match splitSubscript (t.drop name.length) with
    | some (subscript, after) => (some subscript, after)
    | none => (none, t.drop name.length)
  match after with
  | '=' :: value => (⟨name, subscript, false⟩, some value)
  | '+' :: '=' :: value => (⟨name, subscript, true⟩, some value)
  | [] => (⟨name, subscript, false⟩, none)
  | _ => (⟨[], none, false⟩, none)

/-- Goes on where only the outermost scope is there. -/
def inOutermost {α : Type} (act : Act α) : Act α := do
  let s ← get
  let inner := s.scopes.dropLast
  set { s with scopes := s.scopes.drop inner.length }
  andAlways act (modify fun s ↦ { s with scopes := inner ++ s.scopes })

section Declaring

variable (run : Runner)

/-- The members that a text between parentheses gives. -/
def textMembers? (t : Text) : Option Text :=
  match t with
  | '(' :: rest => if rest.getLast? = some ')' then some rest.dropLast else none
  | _ => none

/-- Gives a declared variable its value. -/
def giveDeclared (target : Target) (isArray : Bool) (value : Option Text)
    (members : Option (List Member)) : Act Unit := do
  match members, value with
  | some ms, _ => assignMembers target.name target.adds ms
  | none, some t =>
    match if isArray ∧ target.subscript.isNone then textMembers? t else none with
    | some source => assignMembers target.name target.adds (← expandMembers run source)
    | none =>
      let (name, key) ← Arithmetic.placeOf arithmetic target.name target.subscript
      assignFreely name key target.adds t
  | none, none => pure ()

/-- What is wrong with the name that a variable is to refer to, if anything is. -/
def referenceFlaw? (name : Text) (value : Option Text) : Option Text :=
  value.bind fun t ↦
    if t = name then some (name ++ ": nameref variable self references not allowed".toList)
    else if t.isEmpty ∨ isPlaceName t then none
    else some (citedText t ++ ": invalid variable name for name reference".toList)

/-- Declares one variable, and gives whether that was possible. -/
def declareOne (d : Declaration) (a : Declared) : Act Bool := do
  let (target, value, members) := match a with
    | .word t => let (target, value) := splitDeclared t; (target, value, none)
    | .members name adds ms => (⟨name, none, adds⟩, none, some ms)
  let spelled : Text := match a with
    | .word t => t
    | .members name _ _ => name
  let refused (message : Text) : Act Bool := do
    complain (d.command.toList ++ ": ".toList ++ message)
    return false
  if !isVariableName target.name then
    return ← refused (citedText spelled ++ ": not a valid identifier".toList)
  let act : Act Bool := do
    let s ← get
    let refers := d.given.contains 'n' || d.taken.contains 'n'
    let name := if refers ∨ d.reach = .inner then target.name
      else (State.splitReference (s.referred target.name)).1
    let target := { target with name := name }
    let v := (if d.reach = .inner then s.local? name else s.stored? name).getD .blank
    let outer := (s.stored? name).any fun v ↦ v.attributes.fixed
    if v.attributes.fixed ∧ (d.taken.contains 'r' ∨ value.isSome ∨ members.isSome) ∨
        (d.reach = .inner ∧ outer ∧ (s.local? name).isNone) then
      complain (d.voice ++ name ++ ": readonly variable".toList)
      return false
    let d := if target.subscript.isSome ∧ !d.given.contains 'A' then
      { d with given := 'a' :: d.given } else d
    let d := if members.isSome ∧ !v.isMap ∧ !d.given.contains 'A' then
      { d with given := 'a' :: d.given } else d
    let d := if v.isMap ∧ (members.isSome ∨ target.subscript.isSome) then
      { d with given := d.given.filter (· != 'a') } else d
    match d.reshape v with
    | .error message => refused (name ++ ": ".toList ++ message.toList)
    | .ok content =>
      match if d.given.contains 'n' then referenceFlaw? name value else none with
      | some flaw => refused flaw
      | none =>
        let attributes := d.attributes v.attributes
        let prepared : Variable :=
          { v with content, attributes := { attributes with fixed := false, reference := false } }
        modify fun s ↦ if d.reach = .inner then s.putLocal name prepared else s.put name prepared
        giveDeclared run target prepared.isArray value members
        modify fun s ↦
          let v := (s.stored? name).getD prepared
          let exported := attributes.exported ||
            (v.attributes.exported && !d.taken.contains 'x')
          let v := { v with attributes := { attributes with exported := exported } }
          if d.reach = .inner then s.putLocal name v else s.put name v
        return true
  if d.reach = .whole then inOutermost act else act

/-! ### Listing -/

/-- All variables, those that are computed with them. -/
def State.listed (s : State) : List (Text × Variable) :=
  let computed := ["BASHOPTS", "SHELLOPTS"].filterMap fun name ↦
    (s.computed? name.toList).map fun v ↦ (name.toList, v)
  let all := s.everyVariable ++ (if s.isStandard then [] else computed)
  all.mergeSort fun a b ↦ decide (String.ofList a.1 ≤ String.ofList b.1)

/-- Whether a variable has all of some attributes. -/
def hasAttributes (letters : Text) (v : Variable) : Bool :=
  letters.all fun c ↦ v.letters.contains c

/-- A variable as a list of assignments shows it. -/
def assignmentLine (name : Text) (v : Variable) : Text :=
  let shownValue (t : Text) : Text :=
    let isPlain := !t.isEmpty && !needsEscapes t &&
      t.all fun c ↦ !(shellSigns.contains c) && c != '#' && c != '~'
    if isPlain then t else if t.isEmpty then [] else reusable t
  name ++ '=' :: if v.isArray then v.shownMembers else shownValue (v.value?.getD [])

/-- The functions by name. -/
def State.sortedFunctions (s : State) : List (Text × Function) :=
  s.functions.mergeSort fun a b ↦ decide (String.ofList a.1 ≤ String.ofList b.1)

/-- Lists functions, by their names only or with their bodies. -/
def listFunctions (namesOnly : Bool) (names : List Text) : Act Nat := do
  let s ← get
  if names.isEmpty then
    for (name, f) in s.sortedFunctions do
      let line := "declare -f".toList ++ (if f.exported then "x ".toList else [' ']) ++ name
      if namesOnly then putLine line
      else
        put (shownFunction name f.body)
        if f.exported then putLine line
    return 0
  else
    let mut status := 0
    for name in names do
      match s.functions.lookup name with
      | some f =>
        if namesOnly then putLine name
        else put (shownFunction name f.body)
      | none => status := 1
    return status

/-- Lists all variables and functions, as `set` does. -/
def listAll : Act Nat := do
  let s ← get
  for (name, v) in s.listed do
    if v.assigned then
      if s.isStandard then putLine (name ++ '=' :: singleQuoted (v.value?.getD []))
      else putLine (assignmentLine name v)
  if !s.isStandard then
    for (name, f) in s.sortedFunctions do put (shownFunction name f.body)
  return 0

/-- Lists variables that have some attributes, as commands that declare them. -/
def listDeclared (letters : Text) : Act Nat := do
  let s ← get
  for (name, v) in s.listed do
    if hasAttributes letters v then
      if s.isStandard then
        let command := if letters.contains 'x' then "export " else "readonly "
        putLine (command.toList ++ name ++ match v.value? with
          | some t => '=' :: singleQuoted t
          | none => [])
      else putLine (v.declaration "declare".toList name)
  return 0

/-- Lists the variables of the function under way. -/
def listLocal : Act Nat := do
  let s ← get
  match s.scopes.find? fun scope ↦ scope.kind = .function with
  | none => return 0
  | some scope =>
    for (name, v) in scope.bindings.mergeSort
        fun a b ↦ decide (String.ofList a.1 ≤ String.ofList b.1) do
      putLine (v.declaration "declare".toList name)
    return 0

/-- Lists variables by their names. -/
def listNamed (command : String) (names : List Text) : Act Nat := do
  let mut status := 0
  for name in names do
    let s ← get
    let isReference := (s.stored? name).any fun v ↦ v.attributes.reference
    match if isReference then s.stored? name else s.variableOf? name with
    | some v => putLine (v.declaration "declare".toList name)
    | none => status ← failAs command 1 (name ++ ": not found".toList)
  return status

/-! ### Commands -/

/-- The options of a command that declares: the letters that are given, those that are taken, and
the arguments after them, or the letter that is not known. -/
def declaringOptions (known : String) :
    List Declared → Except Text (Text × Text × List Declared)
  | .word ['-', '-'] :: rest => .ok ([], [], rest)
  | .word (sign :: c :: letters) :: rest =>
    if sign = '-' ∨ sign = '+' then
      match (c :: letters).find? fun c ↦ !known.toList.contains c with
      | some c => .error [sign, c]
      | none =>
        (declaringOptions known rest).map fun (given, taken, others) ↦
          if sign = '-' then (c :: letters ++ given, taken, others)
          else (given, c :: letters ++ taken, others)
    else .ok ([], [], .word (sign :: c :: letters) :: rest)
  | rest => .ok ([], [], rest)

/-- The texts of arguments that are words. -/
def declaredWords (arguments : List Declared) : List Text :=
  arguments.map fun
    | .word t => t
    | .members name _ _ => name

/-- Declares one argument after the other. -/
def declareEach (d : Declaration) (arguments : List Declared) : Act Nat := do
  let mut status := 0
  for a in arguments do
    if !(← declareOne run d a) then status := 1
  return status

/-- Gives functions an attribute. -/
def declareFunctions (command : String) (change : Function → Function) (names : List Text) :
    Act Nat := do
  let mut status := 0
  for name in names do
    if ((← get).functions.lookup name).isSome then
      modify fun s ↦ { s with functions := s.functions.map fun e ↦
        if e.1 = name then (name, change e.2) else e }
    else status ← failAs command 1 (name ++ ": not a function".toList)
  return status

/-- Refuses an option that a command that declares does not know. -/
def refuseDeclaring (command : String) (letter : Text) : Act Nat := do
  if (← get).isStandard then
    refuse .aborts (command.toList ++ ": Illegal option ".toList ++ letter)
  else
    complain (command.toList ++ ": ".toList ++ letter ++ ": invalid option".toList)
    tellUsage command

/-- The commands `declare`, `typeset` and `local`. -/
def declareVariables (command : String) (arguments : List Declared) : Act Nat := do
  let s ← get
  let isLocal := command = "local"
  match declaringOptions "aAfFgiIlnrtuxpc" arguments with
  | .error letter => refuseDeclaring command letter
  | .ok (given, taken, others) =>
    if isLocal ∧ !s.inFunction then
      failAs command 1 "can only be used in a function".toList
    else
      let letters := given.filter fun c ↦ !"pgfFI".toList.contains c
      let names := declaredWords others
      if given.contains 'F' ∨ given.contains 'f' then
        if others.isEmpty ∨ !(given.contains 'x' ∨ given.contains 't' ∨ taken.contains 'x') then
          listFunctions (given.contains 'F') names
        else declareFunctions command (fun f ↦ { f with exported := given.contains 'x' }) names
      else if others.isEmpty then
        if isLocal then listLocal
        else if letters.isEmpty ∧ !given.contains 'p' then listAll
        else listDeclared letters
      else if given.contains 'p' then listNamed command names
      else
        let reach := if given.contains 'g' ∧ !isLocal then Reach.whole
          else if s.inFunction then .inner else .usual
        declareEach run ⟨command, letters, taken, reach⟩ others

/-- The commands `export` and `readonly`, with the letter of their attribute. -/
def declareMarked (command : String) (letter : Char) (arguments : List Declared) : Act Nat := do
  let s ← get
  match declaringOptions (if letter = 'x' then "fnp" else "aAfp") arguments with
  | .error letter => refuseDeclaring command letter
  | .ok (given, taken, others) =>
    let names := declaredWords others
    let letters := given.filter fun c ↦ c = 'a' ∨ c = 'A'
    if given.contains 'f' ∧ !others.isEmpty then
      declareFunctions command (fun f ↦
        if letter = 'x' then { f with exported := !given.contains 'n' } else f) names
    else if others.isEmpty then listDeclared (letter :: letters)
    else if s.isStandard then
      for name in names do
        let (target, _) := splitDeclared name
        if !isVariableName target.name then
          refuse .aborts (command.toList ++ ": ".toList ++ name.takeWhile (· != '=') ++
            ": bad variable name".toList)
      declareEach run ⟨command, [letter], [], .usual⟩ others
    else if given.contains 'n' then
      declareEach run ⟨command, [], [letter], .usual⟩ others
    else declareEach run ⟨command, letter :: letters, taken, .usual⟩ others

/-- The command `local` of the standard. -/
def declareStandardLocal (arguments : List Declared) : Act Nat := do
  let s ← get
  if !s.inFunction then refuse .aborts "local: not in a function".toList
  else
    for a in arguments do
      match a with
      | .word t =>
        let (target, value) := splitDeclared t
        if !isVariableName target.name then
          refuse .aborts ("local: ".toList ++ t ++ ": bad variable name".toList)
        let old := (← get).stored? target.name
        if ((← get).local? target.name).isNone then
          modify fun s ↦ s.putLocal target.name (old.getD .blank)
        if let some t := value then assign target.name t
      | _ => pure ()
    return 0

end Declaring

/-! ### Removing -/

/-- Removes a variable or a member of an array, and gives whether that was possible. -/
def unsetPlace (name : Text) (subscript : Option Text) (itself : Bool) : Act Bool := do
  let s ← get
  let (name, subscript) := if itself then (name, none)
    else match State.splitReference (s.referred name) with
      | (base, none) => (base, subscript)
      | (base, some inner) => (base, some inner)
  if ← isFixed name then
    complain ("unset: ".toList ++ name ++ (if s.isStandard then ": is read only".toList
      else ": cannot unset: readonly variable".toList))
    return false
  match subscript, s.stored? name with
  | none, _ =>
    set (s.drop name)
    return true
  | some _, none => return true
  | some subscript, some v =>
    if (subscript = ['@'] ∨ subscript = ['*']) ∧ !v.isMap then
      if v.isArray then set (s.put name { v with content := .list [] })
      else set (s.drop name)
      return true
    else if !v.isArray ∧ subscript ≠ ['0'] then
      complain ("unset: ".toList ++ name ++ ": not an array variable".toList)
      return false
    else
      let (name, key) ← Arithmetic.placeOf arithmetic name (some subscript)
      match key with
      | some key =>
        if v.isArray then set ((← get).put name { v with content := v.content.drop key })
        else set ((← get).drop name)
      | none => pure ()
      return true

/-- The command `unset`. -/
def unsetNames : Utility := fun arguments ↦
  withFlags "unset" "fvn" "" arguments fun f ↦ do
    if f.has 'f' ∧ f.has 'v' then
      failAs "unset" 1 "cannot simultaneously unset a function and a variable".toList
    else
      let mut status := 0
      for t in f.others do
        let s ← get
        let (name, subscript) := State.splitReference t
        let isKnown := (s.stored? name).isSome
        if f.has 'f' ∨ (!f.has 'v' ∧ !f.has 'n' ∧ !isKnown ∧ !s.isStandard) then
          modify fun s ↦ { s with functions := s.functions.filter fun e ↦ e.1 != t }
        else if isVariableName name then
          if !(← unsetPlace name subscript (f.has 'n')) then
            status := 1
            if s.isStandard then throw .aborts
        else if s.isStandard then
          refuse .aborts ("unset: ".toList ++ t ++ ": bad variable name".toList)
      return status

end CommandScript.Shell
