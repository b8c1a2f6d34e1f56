import CommandScript.Shell.Arithmetic

/-!
# Assignments

Giving values to variables and to members of arrays. The attributes of a variable decide what
becomes of a value: it may be computed, or its letters may change. A variable that keeps its value
refuses another one.
-/
namespace CommandScript.Shell

/-- A **member** that an array gets. -/
inductive Member where
  /-- The member that comes after the one before it, or a key or a value of a map. -/
  | next (value : Text)
  /-- The member of a subscript gets a value, which may be added to the old one. -/
  | placed (subscript : Text) (adds : Bool) (value : Text)
  deriving DecidableEq, Repr

/-- Whether a text is a name, perhaps with a subscript after it. -/
def isPlaceName (t : Text) : Bool :=
  match State.splitReference t with
  | (name, none) => isVariableName name
  | (name, some subscript) =>
    isVariableName name && !subscript.isEmpty && t.getLast? = some ']'

/-- Whether attributes let values become other ones. -/
def Attributes.shapes (a : Attributes) : Bool := a.computed || a.lower || a.upper || a.capital

/-- The value that a text comes to in a variable of some attributes with an old value. -/
def shaped (a : Attributes) (old : Text) (adds : Bool) (t : Text) : Act Text := do
  if a.computed then
    let n ← arithmetic t
    if adds then
      let m ← arithmetic old
      return Text.ofInt (Arithmetic.wrap (m + n))
    else return Text.ofInt n
  else return a.shape (if adds then old ++ t else t)

/-- The key of the member that is meant where none is given. -/
def Variable.usualKey (v : Variable) : Key := if v.isMap then .text ['0'] else .number 0

/-- Gives a value to a variable or to a member of an array, whether that is refused or not. -/
def assignFreely (name : Text) (key : Option Key) (adds : Bool) (t : Text) : Act Unit := do
  let v := ((← get).stored? name).getD .blank
  let member := key.getD v.usualKey
  let old := if v.assigned then (v.content.member? member).getD [] else []
  let value ← shaped v.attributes old adds t
  let v := ((← get).stored? name).getD .blank
  let content := match key, v.content with
    | none, .text _ => .text value
    | some (.number n), .text _ =>
      .list (Content.insert n value (if v.assigned then v.content.asList else []))
    | _, content => content.set member value
  store name { v with content := content, assigned := true }

/-- Gives a value to a variable or to a member of an array. -/
def assignTo (name : Text) (subscript : Option Text) (adds : Bool) (t : Text) : Act Unit := do
  let (name, key) ← Arithmetic.placeOf arithmetic name subscript
  if ← isFixed name then refuseFixed name
  assignFreely name key adds t

/-- Gives a value to a variable. -/
def assign (name value : Text) : Act Unit := assignTo name none false value

/-- Gives a value to a place that a command has been told, and gives whether that was possible. -/
def assignFor (command : String) (place value : Text) : Act Bool := do
  let (name, subscript) := State.splitReference place
  if !isPlaceName place then
    let told := if (← get).isStandard then command.toList ++ ": ".toList ++ place ++
        ": bad variable name".toList
      else command.toList ++ ": ".toList ++ citedText place ++ ": not a valid identifier".toList
    complain told
    return false
  else
    let (name, key) ← Arithmetic.placeOf arithmetic name subscript
    if ← isFixed name then
      if (← get).isStandard then refuseFixed name
      complain (name ++ ": readonly variable".toList)
      return false
    else
      assignFreely name key false value
      return true

/-- The pairs of keys and values in a list. -/
def pairsOf : List Text → List (Text × Text)
  | key :: value :: rest => (key, value) :: pairsOf rest
  | [key] => [(key, [])]
  | [] => []

/-- Gives members to a map. -/
def assignPairs (name : Text) (a : Attributes) (members : List Member)
    (old : List (Text × Text)) : Act (List (Text × Text)) := do
  let add (ms : List (Text × Text)) (key : Text) (adds : Bool) (t : Text) :
      Act (List (Text × Text)) := do
    let value ← shaped a ((ms.lookup key).getD []) adds t
    match (Content.map ms).set (.text key) value with
    | .map ms => return ms
    | _ => return ms
  match members with
  | .next _ :: _ =>
    let texts := members.filterMap fun
      | .next t => some t
      | .placed _ _ _ => none
    (pairsOf texts).foldlM (fun ms (key, value) ↦ add ms key false value) old
  | _ =>
    members.foldlM (fun ms member ↦ do
      match member with
      | .placed key adds t =>
        if key.isEmpty then
          complain ("[]=".toList ++ t ++ ": bad array subscript".toList)
          return ms
        else add ms key adds t
      | .next t =>
        complain (name ++ ": ".toList ++ t ++
          ": must use subscript when assigning associative array".toList)
        return ms) old

/-- Gives members to a list. -/
def assignItems (a : Attributes) (members : List Member) (old : List (Nat × Text)) :
    Act (List (Nat × Text)) := do
  let after (ms : List (Nat × Text)) : Nat := ms.foldl (fun n m ↦ max n (m.1 + 1)) 0
  let add (ms : List (Nat × Text)) (n : Nat) (adds : Bool) (t : Text) :
      Act (List (Nat × Text) × Nat) := do
    let value ← shaped a ((ms.lookup n).getD []) adds t
    return (Content.insert n value ms, n + 1)
  let (ms, _) ← members.foldlM (fun (ms, next) member ↦ do
    match member with
    | .next t => add ms next false t
    | .placed subscript adds t =>
      let n ← arithmetic subscript
      let n := if n < 0 then after ms + n else n
      if n < 0 then
        complain ('[' :: subscript ++ "]=".toList ++ t ++ ": bad array subscript".toList)
        return (ms, next)
      else add ms n.toNat adds t) (old, after old)
  return ms

/-- The values of members that come one after the other. -/
def plainItems (members : List Member) : Option (List Text) :=
  members.mapM fun
    | .next t => some t
    | .placed _ _ _ => none

/-- Gives members to an array, beside its old ones or in their place. -/
def assignMembers (name : Text) (adds : Bool) (members : List Member) : Act Unit := do
  let name := (← get).referred name
  if ← isFixed name then refuseFixed name
  let v := ((← get).stored? name).getD .blank
  let keep := adds && v.assigned
  let content ← match v.content with
    | .map ms => do
      pure (Content.map (← assignPairs name v.attributes members (if keep then ms else [])))
    | content =>
      match plainItems members with
      | some ts =>
        if !keep && !v.attributes.shapes then
          pure (.list (ts.zipIdx.map fun (t, i) ↦ (i, t)))
        else pure (.list (← assignItems v.attributes members (if keep then content.asList else [])))
      | none =>
        pure (.list (← assignItems v.attributes members (if keep then content.asList else [])))
  store name { v with content := content, assigned := true }

end CommandScript.Shell
