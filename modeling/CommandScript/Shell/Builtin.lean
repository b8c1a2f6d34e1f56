import CommandScript.Shell.Builtin.Course
import CommandScript.Shell.Builtin.Declare
import CommandScript.Shell.Builtin.Directory
import CommandScript.Shell.Builtin.Echo
import CommandScript.Shell.Builtin.Help
import CommandScript.Shell.Builtin.Job
import CommandScript.Shell.Builtin.Name
import CommandScript.Shell.Builtin.Options
import CommandScript.Shell.Builtin.Read
import CommandScript.Shell.Builtin.Source
import CommandScript.Shell.Test

/-!
# The commands of the shell by name

What the shell itself carries out: commands that look at it or change it. Those that start other
commands in another way than by a source stand with the evaluation of command lines.
-/
namespace CommandScript.Shell

section Commands

variable (run : Runner)

/-- The commands that need nothing but their arguments. -/
def plainCommands : List (String × Utility) := [
  (":", fun _ ↦ return 0), ("true", fun _ ↦ return 0), ("false", fun _ ↦ return 1),
  ("[", testBracket), ("test", testAs "test" none), ("alias", setAliases),
  ("unalias", dropAliases), ("bg", withoutControl "bg"), ("fg", withoutControl "fg"),
  ("bind", fun _ ↦ failAs "bind" 0 "warning: line editing not enabled".toList),
  ("caller", tellCaller), ("cd", changeDirectory), ("chdir", changeDirectory),
  ("compgen", fun _ ↦ return 1), ("complete", fun _ ↦ return 0), ("compopt", fun _ ↦ return 1),
  ("dirs", tellDirectories), ("disown", disownJobs), ("echo", echo), ("enable", enableCommands),
  ("exit", exitShell), ("fc", fun _ ↦ return 0), ("getopts", readOptions), ("hash", hashPrograms),
  ("help", tellHelp), ("history", fun _ ↦ return 0), ("jobs", listJobs), ("kill", sendSignals run),
  ("let", computeAll), ("logout", logOut), ("mapfile", readLines run "mapfile"),
  ("popd", popDirectory), ("printf", writeFormatted), ("pushd", pushDirectory),
  ("pwd", tellDirectory), ("read", readVariables), ("readarray", readLines run "readarray"),
  ("return", returnFrom), ("set", setOptions), ("shift", shiftArguments),
  ("shopt", changeFeatures), ("suspend", suspendShell), ("times", tellTimes),
  ("trap", setTraps), ("type", tellTypes), ("ulimit", tellLimits), ("umask", changeMask),
  ("unset", unsetNames), ("wait", waitForJobs run)]

/-- A command of the shell at a place, by its name. -/
def commandOf? (place : Place) (standard : Bool) (name : Text) :
    Option (List Declared → Act Nat) :=
  let onWords (u : Utility) (arguments : List Declared) : Act Nat := u (declaredWords arguments)
  match String.ofList name with
  | "declare" => some (declareVariables run "declare")
  | "typeset" => some (declareVariables run "typeset")
  | "local" => some (if standard then declareStandardLocal else declareVariables run "local")
  | "export" => some (declareMarked run "export" 'x')
  | "readonly" => some (declareMarked run "readonly" 'r')
  | "break" => some (onWords (leaveLoops "break" .breaks place.loops))
  | "continue" => some (onWords (leaveLoops "continue" .continues place.loops))
  | "eval" => some (onWords (evaluate run place))
  | "source" => some (onWords (runFile run place "source"))
  | "." => some (onWords (runFile run place "."))
  | known => ((plainCommands run).lookup known).map onWords

/-- Goes on with a command, and reports where its output cannot be written. -/
def withOutput (name : Text) (act : Act Nat) : Act Nat := do
  match ← attempt act with
  | .error .unwritable =>
    if (← get).isStandard then
      failWith 1 (name ++ ": I/O error".toList)
    else failWith 1 (name ++ ": write error: Bad file descriptor".toList)
  | result => resume result

end Commands

end CommandScript.Shell
