import CommandScript.Shell.Builtin.Course
import CommandScript.Shell.PathPattern

/-!
# Commands for the working directory

Going to another directory, telling which one is the present one, and the stack of directories that
one can go back to. A shell knows the directory by the names under which it has been reached: two
dots take the last of them away, even where that was a link.
-/
namespace CommandScript.Shell

/-- The directory that a path leads to from a directory, both by their names, where all names that
are taken away again lead to something. -/
def namedDirectory? (files : FileStore) (directory target : Text) : Option Text :=
  let start := if target.head? = some '/' then target else directory ++ '/' :: target
  let shownNames (names : List Text) : Text := '/' :: ['/'].intercalate names.reverse
  ((Text.fields '/' start).foldlM (fun (names : List Text) name ↦
    if name.isEmpty ∨ name = ['.'] then some names
    else if name = "..".toList then
      match files.find (pathOf (shownNames names)) with
      | .ok .directory => some (names.drop 1)
      | _ => none
    else some (name :: names)) []).map shownNames

/-- Goes to a directory, or tells why that is not possible. Where links are not to be named, the
directory is known by its own place. -/
def goTo (target : Text) (plainly : Bool) : Act (Except FileFault Unit) := do
  let s ← get
  let isPlain := plainly || s.isOn .physical
  let arrive (files : FileStore) (name : Text) : Act (Except FileFault Unit) := do
    set ((({ s with files, directory := name }).putText "OLDPWD" s.directory).putText "PWD" name)
    return .ok ()
  if target.isEmpty then return ← arrive s.files s.directory
  let byPlace : Act (Except FileFault Unit) := do
    match s.files.enter (pathOf target) with
    | .ok files => arrive files (locationText files.here)
    | .error f => return .error f
  match if isPlain then none else namedDirectory? s.files s.directory target with
  | some name =>
    match s.files.enter (pathOf name) with
    | .ok files => arrive files name
    | .error _ => byPlace
  | none => byPlace

/-- The directory among those where others are looked up in which a name leads to one. -/
def searchedDirectory? (s : State) (target : Text) : Option Text :=
  let isFixed := target.head? = some '/' || target.head? = some '.'
  let places := if isFixed then [] else
    match s.value? "CDPATH".toList with
    | some t => if t.isEmpty then [] else Text.fields ':' t
    | none => []
  (places.filter (!·.isEmpty)).findSome? fun place ↦
    let name := place ++ '/' :: target
    match s.files.find (pathOf name) with
    | .ok .directory => some name
    | _ => none

/-- The command `cd`. -/
def changeDirectory : Utility := fun arguments ↦
  withFlags "cd" (if arguments.isEmpty then "" else "LPe@") "" arguments fun f ↦ do
    let s ← get
    let plainly := (f.letters.filter fun c ↦ c = 'L' ∨ c = 'P').getLast? = some 'P'
    let go (target shownAs : Text) (tells : Bool) : Act Nat := do
      match ← goTo target plainly with
      | .ok () =>
        if tells then putLine (← get).directory
        return 0
      | .error fault =>
        if s.isStandard then failAs "cd" 2 ("can't cd to ".toList ++ shownAs)
        else failAs "cd" 1 (shownAs ++ ": ".toList ++ fault.words)
    let named (name : String) (tells : Bool) : Act Nat := do
      match s.value? name.toList with
      | some target => go target target tells
      | none =>
        if s.isStandard then go [] [] tells
        else failAs "cd" 1 (name.toList ++ " not set".toList)
    match f.others with
    | [] => named "HOME" false
    | [['-']] => named "OLDPWD" true
    | [target] =>
      match searchedDirectory? s target with
      | some place => go place target true
      | none => go target target false
    | target :: _ =>
      if s.isStandard then go target target false
      else failAs "cd" 1 "too many arguments".toList

/-- The command `pwd`. -/
def tellDirectory : Utility := fun arguments ↦
  withFlags "pwd" "LP" "" arguments fun f ↦ do
    let s ← get
    let plainly : Bool := match (f.letters.filter fun c ↦ c = 'L' ∨ c = 'P').getLast? with
      | some c => c = 'P'
      | none => s.isOn .physical
    putLine (if plainly then locationText s.files.here else s.directory)
    return 0

/-! ### The stack -/

/-- A directory as a list of them shows it. -/
def shownDirectory (s : State) (whole : Bool) (directory : Text) : Text :=
  let home := s.valueOf "HOME"
  match if whole ∨ home.length < 2 then none else Text.dropStart? home directory with
  | some rest => if rest.isEmpty ∨ rest.head? = some '/' then '~' :: rest else directory
  | none => directory

/-- Lists the working directory and those of the stack. -/
def listDirectories : Act Nat := do
  let s ← get
  putLine ([' '].intercalate ((s.directory :: s.stack).map (shownDirectory s false)))
  return 0

/-- The place in the stack that a signed number means, counted from one of its ends. -/
def stackPlace? (size : Nat) (t : Text) : Option (Option Nat) :=
  match t with
  | sign :: digits =>
    if (sign = '+' ∨ sign = '-') ∧ isDigits digits then
      let n := Text.digitsValue digits
      some (if size ≤ n then none else some (if sign = '+' then n else size - 1 - n))
    else none
  | [] => none

/-- Reports that there is no such place in the stack. -/
def refusePlace (command : String) (t : Text) : Act Nat := do
  if (← get).stack.isEmpty then failAs command 1 "directory stack empty".toList
  else failAs command 1 (t ++ ": directory stack index out of range".toList)

/-- The command `dirs`. -/
def tellDirectories : Utility := fun arguments ↦ do
  let s ← get
  let all := s.directory :: s.stack
  let (signed, others) := (dropDashes arguments).partition fun t ↦ (stackPlace? 0 t).isSome
  let letters := (others.map fun t ↦ t.drop 1).flatten
  match others.find? fun t ↦ t.head? ≠ some '-' ∨ (t.drop 1).any fun c ↦
      !"clpv".toList.contains c with
  | some t =>
    complain ("dirs: ".toList ++ t ++ (if t.head? = some '-' then ": invalid number".toList
      else ": invalid option".toList))
    tellUsage "dirs"
  | none =>
    if letters.contains 'c' then
      set { s with stack := [] }
      return 0
    else
      let show1 (directory : Text) : Text := shownDirectory s (letters.contains 'l') directory
      let numbered (i : Nat) (directory : Text) : Text :=
        padStart 2 (shown i) ++ ' ' :: ' ' :: show1 directory
      match signed.getLast? with
      | some t =>
        match (stackPlace? all.length t).getD none with
        | none => refusePlace "dirs" (t.drop 1)
        | some i =>
          let directory := all[i]?.getD []
          putLine (if letters.contains 'v' then numbered i directory else show1 directory)
          return 0
      | none =>
        if letters.contains 'v' then
          put (ofLines (all.zipIdx.map fun (directory, i) ↦ numbered i directory))
        else if letters.contains 'p' then put (ofLines (all.map show1))
        else putLine ([' '].intercalate (all.map show1))
        return 0

/-- Goes to a directory for a command of the stack, which then becomes the given one. -/
def goForStack (command : String) (target : Text) (stack : List Text) : Act Nat := do
  match ← goTo target false with
  | .error f => failAs command 1 (target ++ ": ".toList ++ f.words)
  | .ok () =>
    modify fun s ↦ { s with stack }
    listDirectories

/-- Whether the first argument keeps a command of the stack from going anywhere, and the other
arguments. -/
def stayingArguments (arguments : List Text) : Bool × List Text :=
  match arguments with
  | ['-', 'n'] :: rest => (true, dropDashes rest)
  | arguments => (false, dropDashes arguments)

/-- The command `pushd`. -/
def pushDirectory : Utility := fun arguments ↦ do
  let s ← get
  let (stays, arguments) := stayingArguments arguments
  let all := s.directory :: s.stack
  match arguments with
  | [] =>
    match s.stack with
    | [] => failAs "pushd" 1 "no other directory".toList
    | target :: rest => goForStack "pushd" target (s.directory :: rest)
  | t :: _ =>
    match stackPlace? all.length t with
    | some none => refusePlace "pushd" t
    | some (some i) =>
      let turned := all.drop i ++ all.take i
      goForStack "pushd" (turned.headD []) (turned.drop 1)
    | none =>
      if t.head? = some '-' ∧ t ≠ ['-'] then
        complain ("pushd: ".toList ++ t ++ ": invalid number".toList)
        tellUsage "pushd"
      else if stays then
        set { s with stack := t :: s.stack }
        listDirectories
      else
        let target := if t = ['-'] then s.valueOf "OLDPWD" else t
        goForStack "pushd" target (s.directory :: s.stack)

/-- The command `popd`. -/
def popDirectory : Utility := fun arguments ↦ do
  let s ← get
  let (stays, arguments) := stayingArguments arguments
  let all := s.directory :: s.stack
  let place? : Option (Option Nat) := match arguments with
    | [] => some (some (if stays then 1 else 0))
    | t :: _ => stackPlace? all.length t
  match place? with
  | none =>
    let t := arguments.headD []
    complain ("popd: ".toList ++ t ++
      (if t.head? = some '-' then ": invalid number" else ": invalid argument").toList)
    tellUsage "popd"
  | some i =>
    match s.stack, i with
    | [], _ => failAs "popd" 1 "directory stack empty".toList
    | _, none => refusePlace "popd" (arguments.headD [])
    | target :: rest, some 0 => goForStack "popd" target rest
    | _, some (i + 1) =>
      set { s with stack := s.stack.eraseIdx i }
      listDirectories

end CommandScript.Shell
