import CommandScript.Shell.Builtin.Usage

/-!
# Commands that change the course of the shell

Leaving the shell, a function or a file of commands, and loops.
-/
namespace CommandScript.Shell

/-- Sets the status and leaves. -/
def leaveWith (status : Nat) (leave : Leave) : Act Nat := do
  modify fun s ↦ { s with status := status }
  throw leave

/-- The status that a whole number gives. -/
def statusOf (n : Int) : Nat := (Int.emod n 256).toNat

/-- Arguments without the sign that ends options. -/
def dropDashes (arguments : List Text) : List Text :=
  if arguments.head? = some "--".toList then arguments.drop 1 else arguments

/-- Leaves the shell. -/
def exitShell : Utility := fun arguments ↦ do
  let s ← get
  match dropDashes arguments with
  | [] => throw .exits
  | t :: rest =>
    match wholeNumber? t with
    | some n =>
      if s.isStandard ∧ n < 0 then
        refuse .aborts ("exit: Illegal number: ".toList ++ t)
      else if rest.isEmpty ∨ s.isStandard then leaveWith (statusOf n) .exits
      else
        complain "exit: too many arguments".toList
        leaveWith 1 .drops
    | none =>
      if s.isStandard then refuse .aborts ("exit: Illegal number: ".toList ++ t)
      else complain ("exit: ".toList ++ t ++ ": numeric argument required".toList)
      leaveWith 2 .exits

/-- Leaves a function or a file of commands. -/
def returnFrom : Utility := fun arguments ↦ do
  let s ← get
  let leave : Leave := if s.canReturn ∨ !s.isStandard then .returns else .exits
  match dropDashes arguments with
  | [] =>
    if !s.canReturn ∧ !s.isStandard then
      failAs "return" 2 "can only \x60return' from a function or sourced script".toList
    else throw leave
  | t :: rest =>
    match wholeNumber? t with
    | some n =>
      if !rest.isEmpty ∧ !s.isStandard then
        complain "return: too many arguments".toList
        leaveWith 1 .drops
      else if !s.canReturn ∧ !s.isStandard then
        failAs "return" 2 "can only \x60return' from a function or sourced script".toList
      else leaveWith (if s.isStandard then n.toNat else statusOf n) leave
    | none =>
      if s.isStandard then
        refuse .aborts ("return: Illegal number: ".toList ++ t)
      else
        complain ("return: ".toList ++ t ++ ": numeric argument required".toList)
        if s.canReturn then leaveWith 2 leave
        else failAs "return" 2 "can only \x60return' from a function or sourced script".toList

/-- Leaves loops, or goes on with the next round of one. -/
def leaveLoops (name : String) (leave : Nat → Leave) (loops : Nat) : Utility := fun arguments ↦ do
  let s ← get
  if loops = 0 ∧ (!s.isStandard ∨ arguments.all fun t ↦ 0 < (wholeNumber? t).getD 0) then
    if s.isStandard then return 0
    else failAs name 0 "only meaningful in a \x60for', \x60while', or \x60until' loop".toList
  else match dropDashes arguments with
    | [] => leaveWith 0 (leave 1)
    | t :: _ =>
      match wholeNumber? t with
      | none =>
        if s.isStandard then refuse .aborts (name.toList ++ ": Illegal number: ".toList ++ t)
        complain (name.toList ++ ": ".toList ++ t ++ ": numeric argument required".toList)
        leaveWith 128 .exits
      | some n =>
        if n < 1 then
          if s.isStandard then
            refuse .aborts (name.toList ++ ": Illegal number: ".toList ++ t)
          else
            complain (name.toList ++ ": ".toList ++ t ++ ": loop count out of range".toList)
            leaveWith 1 (.breaks loops)
        else leaveWith 0 (leave (min n.toNat loops))

/-- Tells where the function or file under way has been called. -/
def tellCaller : Utility := fun arguments ↦ do
  let s ← get
  let hasMain := !s.origin.contains 'c'
  let frames := s.frames ++ (if hasMain then [⟨"main".toList, 0, s.called, false⟩] else [])
  match frames, arguments with
  | [], _ => return 1
  | frame :: outer, [] =>
    let origin := (outer.head?.map Frame.origin).getD "NULL".toList
    putLine (shown frame.line ++ ' ' :: origin)
    return 0
  | frames, t :: _ =>
    match naturalNumber? t with
    | none =>
      complain ("caller: ".toList ++ t ++ ": invalid number".toList)
      tellUsage "caller"
    | some n =>
      match frames[n]?, frames[n + 1]? with
      | some frame, some outer =>
        putLine (shown frame.line ++ ' ' :: outer.name ++ ' ' :: outer.origin)
        return 0
      | _, _ => return 1

end CommandScript.Shell
