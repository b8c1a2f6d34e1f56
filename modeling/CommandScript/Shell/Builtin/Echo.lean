import CommandScript.Shell.Builtin.Usage
import CommandScript.Shell.Printf

/-!
# Commands that write and compute

Writing arguments plainly or in a format, and computing arithmetic expressions.
-/
namespace CommandScript.Shell

/-- Whether an argument of `echo` is one of its options. -/
def isEchoOption : Text → Bool
  | '-' :: c :: rest => (c :: rest).all fun c ↦ "neE".toList.contains c
  | _ => false

/-- Writes a line with its escapes replaced, as long as no escape ends the output. -/
def putEscaped (style : EscapeStyle) (t ending : Text) : Act Unit := do
  let (t, goesOn, _) := replaceEscapes style (t.length + 1) t
  put (if goesOn then t ++ ending else t)

/-- The command `echo`. -/
def echo : Utility := fun arguments ↦ do
  let s ← get
  if s.isStandard then
    let isOpen := arguments.head? = some "-n".toList
    let words := if isOpen then arguments.drop 1 else arguments
    putEscaped .standard ([' '].intercalate words) (if isOpen then [] else ['\n'])
  else
    let options := (arguments.takeWhile isEchoOption).flatten
    let t := [' '].intercalate (arguments.dropWhile isEchoOption)
    let ending : Text := if options.contains 'n' then [] else ['\n']
    let replaces : Bool := match (options.filter fun c ↦ c = 'e' ∨ c = 'E').getLast? with
      | some c => c = 'e'
      | none => s.hasFeature "xpg_echo"
    if replaces then putEscaped .echoed t ending else put (t ++ ending)
  return 0

/-- The command `printf`. -/
def writeFormatted : Utility := fun arguments ↦ do
  let s ← get
  let refuseUse : Act Nat := do
    if s.isStandard then failAs "printf" 2 "usage: printf format [arg ...]".toList
    else tellUsage "printf"
  withFlags "printf" "" (if s.isStandard then "" else "v") arguments fun f ↦ do
    match f.others with
    | [] => refuseUse
    | format :: arguments =>
      if let some place := f.value? 'v' then
        if !isPlaceName place then
          return ← failAs "printf" 2 (citedText place ++ ": not a valid identifier".toList)
      let found := formatAll s.isStandard format arguments
      for complaint in found.complaints do complain ("printf: ".toList ++ complaint)
      let status := found.status
      match f.value? 'v' with
      | some place => return if ← assignFor "printf" place found.text then status else 1
      | none =>
        put found.text
        return status

/-- The command `let`: the last value decides on the status. -/
def computeAll : Utility := fun arguments ↦ do
  match arguments with
  | [] => failAs "let" 1 "expression expected".toList
  | _ =>
    let result ← attempt (speakingAs "let" (arguments.mapM arithmetic))
    match result with
    | .ok values => return if values.getLast? = some 0 then 1 else 0
    | .error .valueless => return 1
    | .error .drops => return 1
    | .error leave => throw leave

end CommandScript.Shell
