import CommandScript.Shell.Binding
import CommandScript.Shell.PathPattern

/-!
# Shells that start

What belongs to a shell when it starts: the variables of its environment, which programs see too,
and some of its own.
-/
namespace CommandScript.Shell

/-- What is known of a shell that starts. -/
structure Beginning where
  /-- The language. -/
  dialect : Dialect
  /-- The variables that programs see, by name. -/
  environment : List (Text × Text)
  /-- The name of the shell. -/
  called : Text
  /-- The arguments. -/
  arguments : List Text
  /-- The letters of the options that say where commands come from. -/
  origin : Text
  /-- The switches that are on besides the usual ones. -/
  switches : List Switch
  /-- The number of its process. -/
  process : Nat
  /-- The numbers of the processes that wait for it. -/
  around : List Nat
  /-- The bits that new files lack. -/
  mask : Nat
  /-- The conduits of the channels, by their numbers. -/
  channels : List (Nat × Nat)
  /-- The functions that programs see. -/
  functions : List (Text × Function)
  /-- What is run when signals come. -/
  traps : List (Nat × Text)

/-- The path of the shell of the extended language. -/
def shellPath : Text := "/usr/bin/bash".toList

/-- The number of the version of the shell. -/
def shellVersion : Text := "5.2.21(1)-release".toList

/-- The machine on which the shell runs. -/
def machine : Text := "x86_64-pc-linux-gnu".toList

/-- The directories in which programs are looked up when the environment has none. -/
def usualPath : Text := "/usr/local/sbin:/usr/local/bin:/usr/sbin:/usr/bin:/sbin:/bin".toList

namespace Beginning

/-- The working directory as the environment names it, if it does so rightly. -/
def directory (b : Beginning) (files : FileStore) : Text :=
  match (b.environment.lookup "PWD".toList).filter fun t ↦ t.head? = some '/' with
  | some t =>
    match files.locate (pathOf t) with
    | .ok l => if l = files.here then t else locationText files.here
    | .error _ => locationText files.here
  | none => locationText files.here

/-- A variable of a text that is no number of its own. -/
def plainVariable (name : String) (value : Text) : Text × Variable :=
  (name.toList, .ofText value)

/-- A variable that programs see. -/
def exportedVariable (name value : Text) : Text × Variable :=
  (name, { Variable.ofText value with attributes := { exported := true } })

/-- A variable of a number that keeps its value. -/
def fixedNumber (name : String) (n : Nat) : Text × Variable :=
  (name.toList,
    { Variable.ofText (shown n) with attributes := { fixed := true, computed := true } })

/-- The variables that a shell of the extended language has besides its environment. -/
def ownVariables (b : Beginning) : List (Text × Variable) :=
  let version := ["5", "2", "21", "1", "release"].map String.toList ++ [machine]
  [plainVariable "BASH" shellPath, plainVariable "BASH_VERSION" shellVersion,
    ("BASH_VERSINFO".toList, { Variable.ofList version with attributes := { fixed := true } }),
    fixedNumber "EUID" 0, fixedNumber "UID" 0, fixedNumber "PPID" (b.around.headD 1),
    plainVariable "COMP_WORDBREAKS" " \t\n\"'@><=;|&(:".toList,
    plainVariable "HOSTNAME" "localhost".toList, plainVariable "HOSTTYPE" "x86_64".toList,
    plainVariable "IFS" " \t\n".toList, plainVariable "MACHTYPE" machine,
    plainVariable "OPTERR" ['1'],
    ("OPTIND".toList, { Variable.ofText ['1'] with attributes := { computed := true } }),
    plainVariable "OSTYPE" "linux-gnu".toList, plainVariable "PATH" usualPath,
    plainVariable "PS4" "+ ".toList,
    ("RANDOM".toList, { Variable.ofText ['0'] with attributes := { computed := true } }),
    plainVariable "SECONDS" ['0'], plainVariable "SHELL" "/bin/bash".toList,
    plainVariable "TERM" "dumb".toList, plainVariable "_" b.called]

/-- The variables that a shell of the standard has besides its environment. -/
def standardVariables (b : Beginning) : List (Text × Variable) := [
  plainVariable "IFS" " \t\n".toList, plainVariable "OPTIND" ['1'],
  plainVariable "PATH" usualPath, plainVariable "PPID" (shown (b.around.headD 1)),
  plainVariable "PS1" "# ".toList, plainVariable "PS2" "> ".toList, plainVariable "PS4" "+ ".toList]

/-- The variables with which a shell starts. -/
def bindings (b : Beginning) (files : FileStore) : List (Text × Variable) :=
  let isExtended := b.dialect = .extended
  let kept := b.environment.filter fun e ↦ isVariableName e.1 && e.1 != "IFS".toList &&
    e.1 != "PWD".toList &&
    (!isExtended || !(["SHLVL", "OLDPWD", "OPTIND"].contains (String.ofList e.1)))
  let level := shellLevel ((b.environment.lookup "SHLVL".toList).getD []) 1
  let shared := (kept.map fun e ↦ exportedVariable e.1 e.2) ++
    [exportedVariable "PWD".toList (b.directory files)]
  if isExtended then
    let last : Variable := match b.environment.lookup "OLDPWD".toList with
      | some t => { Variable.ofText t with attributes := { exported := true } }
      | none => { Variable.blank with attributes := { exported := true } }
    shared ++ [exportedVariable "SHLVL".toList (shown level), ("OLDPWD".toList, last)] ++
      b.ownVariables.filter fun e ↦ (kept.lookup e.1).isNone
  else
    let own := b.standardVariables.map fun (name, v) ↦ match kept.lookup name with
      | some t => exportedVariable name t
      | none => (name, v)
    (own ++ shared.filter fun e ↦ (own.lookup e.1).isNone).reverse

/-- What belongs to a shell when it starts. -/
def self (b : Beginning) (files : FileStore) : Self where
  scopes := [⟨.whole, b.bindings files⟩]
  functions := b.functions
  aliases := []
  switches := (if b.dialect = .extended then [.braceexpand, .hashall, .comments] else []) ++
    b.switches
  features := if b.dialect = .extended then usualFeatures else []
  disabled := []
  dialect := b.dialect
  origin := b.origin
  called := b.called
  speaker := b.called
  speaking := []
  within := []
  arguments := b.arguments
  shellProcess := b.process
  process := b.process
  around := b.around
  subshells := 0
  purpose := .nothing
  awaited := .nothing
  nesting := 0
  frames := []
  traps := b.traps.filter fun t ↦ t.2.isEmpty
  formerTraps := []
  handling := none
  line := 0
  base := 0
  status := 0
  statuses := [0]
  beside := none
  command := []
  directory := b.directory files
  stack := []
  mask := b.mask
  optionPlace := 0
  hashed := []
  deadline := none
  channels := b.channels
  lent := []

end Beginning

/-- Keeps the command line that a shell has been told to run, in the variable where commands find
it. -/
def keepSource (source : Text) : Act Unit :=
  store "BASH_EXECUTION_STRING".toList (.ofText source)

end CommandScript.Shell
