import CommandScript.Shell.Assign

/-!
# Options of the commands of the shell

The commands that the shell itself carries out have options of single letters, of which some take a
value. An option that is not known is refused with the usage of the command.
-/
namespace CommandScript.Shell

/-- The usages of the commands of the shell. -/
def usages : List (String × String) := [
  (".", "filename [arguments]"), (":", ":"), ("[", "arg... ]"),
  ("alias", "[-p] [name[=value] ... ]"), ("bg", "[job_spec ...]"),
  ("bind", "[-lpsvPSVX] [-m keymap] [-f filename] [-q name] [-u name] [-r keyseq] " ++
    "[-x keyseq:shell-command] [keyseq:readline-function or readline-command]"),
  ("break", "[n]"), ("builtin", "[shell-builtin [arg ...]]"), ("caller", "[expr]"),
  ("cd", "[-L|[-P [-e]] [-@]] [dir]"), ("command", "[-pVv] command [arg ...]"),
  ("compgen", "[-abcdefgjksuv] [-o option] [-A action] [-G globpat] [-W wordlist] [-F function] " ++
    "[-C command] [-X filterpat] [-P prefix] [-S suffix] [word]"),
  ("complete", "[-abcdefgjksuv] [-pr] [-DEI] [-o option] [-A action] [-G globpat] [-W wordlist] " ++
    "[-F function] [-C command] [-X filterpat] [-P prefix] [-S suffix] [name ...]"),
  ("compopt", "[-o|+o option] [-DEI] [name ...]"), ("continue", "[n]"),
  ("declare", "[-aAfFgiIlnrtux] [name[=value] ...] or declare -p [-aAfFilnrtux] [name ...]"),
  ("dirs", "[-clpv] [+N] [-N]"), ("disown", "[-h] [-ar] [jobspec ... | pid ...]"),
  ("echo", "[-neE] [arg ...]"), ("enable", "[-a] [-dnps] [-f filename] [name ...]"),
  ("eval", "[arg ...]"),
  ("exec", "[-cl] [-a name] [command [argument ...]] [redirection ...]"), ("exit", "[n]"),
  ("export", "[-fn] [name[=value] ...] or export -p"), ("false", "false"),
  ("fc", "[-e ename] [-lnr] [first] [last] or fc -s [pat=rep] [command]"), ("fg", "[job_spec]"),
  ("getopts", "optstring name [arg ...]"), ("hash", "[-lr] [-p pathname] [-dt] [name ...]"),
  ("help", "[-dms] [pattern ...]"),
  ("history", "[-c] [-d offset] [n] or history -anrw [filename] or history -ps arg [arg...]"),
  ("jobs", "[-lnprs] [jobspec ...] or jobs -x command [args]"),
  ("kill", "[-s sigspec | -n signum | -sigspec] pid | jobspec ... or kill -l [sigspec]"),
  ("let", "arg [arg ...]"), ("local", "[option] name[=value] ..."), ("logout", "[n]"),
  ("mapfile", "[-d delim] [-n count] [-O origin] [-s count] [-t] [-u fd] [-C callback] " ++
    "[-c quantum] [array]"),
  ("popd", "[-n] [+N | -N]"), ("printf", "[-v var] format [arguments]"),
  ("pushd", "[-n] [+N | -N | dir]"), ("pwd", "[-LP]"),
  ("read", "[-ers] [-a array] [-d delim] [-i text] [-n nchars] [-N nchars] [-p prompt] " ++
    "[-t timeout] [-u fd] [name ...]"),
  ("readarray", "[-d delim] [-n count] [-O origin] [-s count] [-t] [-u fd] [-C callback] " ++
    "[-c quantum] [array]"),
  ("readonly", "[-aAf] [name[=value] ...] or readonly -p"), ("return", "[n]"),
  ("set", "[-abefhkmnptuvxBCEHPT] [-o option-name] [--] [-] [arg ...]"), ("shift", "[n]"),
  ("shopt", "[-pqsu] [-o] [optname ...]"), ("source", "filename [arguments]"),
  ("suspend", "[-f]"), ("test", "[expr]"), ("times", ""),
  ("trap", "[-lp] [[arg] signal_spec ...]"), ("true", "true"),
  ("type", "[-afptP] name [name ...]"),
  ("typeset", "[-aAfFgiIlnrtux] name[=value] ... or typeset -p [-aAfFilnrtux] [name ...]"),
  ("ulimit", "[-SHabcdefiklmnpqrstuvxPRT] [limit]"), ("umask", "[-p] [-S] [mode]"),
  ("unalias", "[-a] name [name ...]"), ("unset", "[-f] [-v] [-n] [name ...]"),
  ("wait", "[-fn] [-p var] [id ...]")]

/-- Whether the shell has a command of its own under a name. -/
def isShellCommand (name : Text) : Bool := (usages.lookup (String.ofList name)).isSome

/-- The commands that a shell of the standard has of its own. -/
def standardCommands : List String := [
  ".", ":", "[", "alias", "bg", "break", "cd", "chdir", "command", "continue", "echo", "eval",
  "exec", "exit", "export", "false", "fg", "getopts", "hash", "jobs", "kill", "local", "printf",
  "pwd", "read", "readonly", "return", "set", "shift", "test", "times", "trap", "true", "type",
  "ulimit", "umask", "unalias", "unset", "wait"]

/-- Whether a name is looked up as that of a command of the shell. -/
def State.hasCommand (s : State) (name : Text) : Bool :=
  !s.disabled.contains name &&
    (if s.isStandard then standardCommands.contains (String.ofList name) else isShellCommand name)

/-- The usage of a command as one text. -/
def usageText (name : String) : Text :=
  let words := (usages.lookup name).getD ""
  name.toList ++ (if words.isEmpty ∨ words = name then [] else ' ' :: words.toList)

/-- Tells the usage of a command, and gives the status of a wrong use. -/
def tellUsage (name : String) : Act Nat := do
  tellLine (name.toList ++ ": usage: ".toList ++ usageText name)
  return 2

/-- Reports something about a command by its name, and gives a status. -/
def failAs (name : String) (status : Nat) (message : Text) : Act Nat :=
  failWith status (name.toList ++ ": ".toList ++ message)

/-- The options of a command and its other arguments. -/
structure Flags where
  /-- The letters of the options, in order. -/
  letters : Text
  /-- The values of the options that take one. -/
  values : List (Char × Text)
  /-- The arguments after the options. -/
  others : List Text
  deriving DecidableEq, Repr

/-- Whether an option is given. -/
def Flags.has (f : Flags) (letter : Char) : Bool := f.letters.contains letter

/-- The last value of an option. -/
def Flags.value? (f : Flags) (letter : Char) : Option Text := f.values.lookup letter

/-- Reads the letters of one argument: the rest of it, or the next argument, is the value of an
option that takes one. -/
def readLetters (plain valued : String) (f : Flags) : Text → List Text →
    Except Text (Flags × List Text)
  | [], rest => .ok (f, rest)
  | c :: letters, rest =>
    if valued.toList.contains c then
      match letters, rest with
      | [], [] => .error ('-' :: c :: ": option requires an argument".toList)
      | [], value :: rest =>
        .ok ({ f with letters := f.letters ++ [c], values := (c, value) :: f.values }, rest)
      | value, rest =>
        .ok ({ f with letters := f.letters ++ [c], values := (c, value) :: f.values }, rest)
    else if plain.toList.contains c then
      readLetters plain valued { f with letters := f.letters ++ [c] } letters rest
    else .error ('-' :: c :: ": invalid option".toList)

/-- Reads the options at the start of arguments. -/
def readFlags (plain valued : String) : Nat → Flags → List Text → Except Text Flags
  | 0, f, rest => .ok { f with others := rest }
  | n + 1, f, arguments =>
    match arguments with
    | ['-', '-'] :: rest => .ok { f with others := rest }
    | ('-' :: c :: letters) :: rest =>
      match readLetters plain valued f (c :: letters) rest with
      | .ok (f, rest) => readFlags plain valued n f rest
      | .error message => .error message
    | rest => .ok { f with others := rest }

/-- The options at the start of the arguments of a command, or what is wrong with them. -/
def flagsOf (plain valued : String) (arguments : List Text) : Except Text Flags :=
  readFlags plain valued (arguments.length + 1) ⟨[], [], []⟩ arguments

/-- Goes on with the options of a command, or tells its usage. -/
def withFlags (name plain valued : String) (arguments : List Text) (act : Flags → Act Nat) :
    Act Nat := do
  match flagsOf plain valued arguments with
  | .ok f => act f
  | .error message =>
    if (← get).isStandard then
      refuse .aborts (name.toList ++ ": Illegal option ".toList ++ message.take 2)
    else
      complain (name.toList ++ ": ".toList ++ message)
      tellUsage name

end CommandScript.Shell
