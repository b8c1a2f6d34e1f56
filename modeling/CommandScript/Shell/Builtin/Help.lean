import CommandScript.Shell.Builtin.Usage
import CommandScript.Shell.Pattern

/-!
# Help

The topics on which the shell gives help: its own commands and the forms of the language. A topic is
found by its name, by the start of it, or by a pattern.
-/
namespace CommandScript.Shell

/-- A topic of help. -/
structure HelpTopic where
  /-- Its name. -/
  name : String
  /-- What it is about. -/
  summary : String
  /-- How the form of the language is written, if the topic is none of the commands. -/
  form : Option String := none
  deriving DecidableEq, Repr

namespace HelpTopic

/-- The topics, in order. -/
def all : List HelpTopic := [
  ⟨"%", "Resume job in foreground.", some "job_spec [&]"⟩,
  ⟨"(( ... ))", "Evaluate arithmetic expression.", some "(( expression ))"⟩,
  ⟨".", "Execute commands from a file in the current shell.", none⟩,
  ⟨":", "Null command.", none⟩,
  ⟨"[", "Evaluate conditional expression.", none⟩,
  ⟨"[[ ... ]]", "Execute conditional command.", some "[[ expression ]]"⟩,
  ⟨"alias", "Define or display aliases.", none⟩,
  ⟨"bg", "Move jobs to the background.", none⟩,
  ⟨"bind", "Set Readline key bindings and variables.", none⟩,
  ⟨"break", "Exit for, while, or until loops.", none⟩,
  ⟨"builtin", "Execute shell builtins.", none⟩,
  ⟨"caller", "Return the context of the current subroutine call.", none⟩,
  ⟨"case", "Execute commands based on pattern matching.",
    some "case WORD in [PATTERN [| PATTERN]...) COMMANDS ;;]... esac"⟩,
  ⟨"cd", "Change the shell working directory.", none⟩,
  ⟨"command", "Execute a simple command or display information about commands.", none⟩,
  ⟨"compgen", "Display possible completions depending on the options.", none⟩,
  ⟨"complete", "Specify how arguments are to be completed by Readline.", none⟩,
  ⟨"compopt", "Modify or display completion options.", none⟩,
  ⟨"continue", "Resume for, while, or until loops.", none⟩,
  ⟨"coproc", "Create a coprocess named NAME.", some "coproc [NAME] command [redirections]"⟩,
  ⟨"declare", "Set variable values and attributes.", none⟩,
  ⟨"dirs", "Display directory stack.", none⟩,
  ⟨"disown", "Remove jobs from current shell.", none⟩,
  ⟨"echo", "Write arguments to the standard output.", none⟩,
  ⟨"enable", "Enable and disable shell builtins.", none⟩,
  ⟨"eval", "Execute arguments as a shell command.", none⟩,
  ⟨"exec", "Replace the shell with the given command.", none⟩,
  ⟨"exit", "Exit the shell.", none⟩,
  ⟨"export", "Set export attribute for shell variables.", none⟩,
  ⟨"false", "Return an unsuccessful result.", none⟩,
  ⟨"fc", "Display or execute commands from the history list.", none⟩,
  ⟨"fg", "Move job to the foreground.", none⟩,
  ⟨"for", "Execute commands for each member in a list.",
    some "for NAME [in WORDS ... ] ; do COMMANDS; done"⟩,
  ⟨"for ((", "Arithmetic for loop.", some "for (( exp1; exp2; exp3 )); do COMMANDS; done"⟩,
  ⟨"function", "Define shell function.",
    some "function name \x7b COMMANDS ; \x7d or name () \x7b COMMANDS ; \x7d"⟩,
  ⟨"getopts", "Parse option arguments.", none⟩,
  ⟨"hash", "Remember or display program locations.", none⟩,
  ⟨"help", "Display information about builtin commands.", none⟩,
  ⟨"history", "Display or manipulate the history list.", none⟩,
  ⟨"if", "Execute commands based on conditional.",
    some "if COMMANDS; then COMMANDS; [ elif COMMANDS; then COMMANDS; ]... [ else COMMANDS; ] fi"⟩,
  ⟨"jobs", "Display status of jobs.", none⟩,
  ⟨"kill", "Send a signal to a job.", none⟩,
  ⟨"let", "Evaluate arithmetic expressions.", none⟩,
  ⟨"local", "Define local variables.", none⟩,
  ⟨"logout", "Exit a login shell.", none⟩,
  ⟨"mapfile", "Read lines from the standard input into an indexed array variable.", none⟩,
  ⟨"popd", "Remove directories from stack.", none⟩,
  ⟨"printf", "Formats and prints ARGUMENTS under control of the FORMAT.", none⟩,
  ⟨"pushd", "Add directories to stack.", none⟩,
  ⟨"pwd", "Print the name of the current working directory.", none⟩,
  ⟨"read", "Read a line from the standard input and split it into fields.", none⟩,
  ⟨"readarray", "Read lines from a file into an array variable.", none⟩,
  ⟨"readonly", "Mark shell variables as unchangeable.", none⟩,
  ⟨"return", "Return from a shell function.", none⟩,
  ⟨"select", "Select words from a list and execute commands.",
    some "select NAME [in WORDS ... ;] do COMMANDS; done"⟩,
  ⟨"set", "Set or unset values of shell options and positional parameters.", none⟩,
  ⟨"shift", "Shift positional parameters.", none⟩,
  ⟨"shopt", "Set and unset shell options.", none⟩,
  ⟨"source", "Execute commands from a file in the current shell.", none⟩,
  ⟨"suspend", "Suspend shell execution.", none⟩,
  ⟨"test", "Evaluate conditional expression.", none⟩,
  ⟨"time", "Report time consumed by pipeline's execution.", some "time [-p] pipeline"⟩,
  ⟨"times", "Display process times.", none⟩,
  ⟨"trap", "Trap signals and other events.", none⟩,
  ⟨"true", "Return a successful result.", none⟩,
  ⟨"type", "Display information about command type.", none⟩,
  ⟨"typeset", "Set variable values and attributes.", none⟩,
  ⟨"ulimit", "Modify shell resource limits.", none⟩,
  ⟨"umask", "Display or set file mode mask.", none⟩,
  ⟨"unalias", "Remove each NAME from the list of defined aliases.", none⟩,
  ⟨"unset", "Unset values and attributes of shell variables and functions.", none⟩,
  ⟨"until", "Execute commands as long as a test does not succeed.",
    some "until COMMANDS; do COMMANDS-2; done"⟩,
  ⟨"variables", "Common shell variable names and usage.",
    some "variables - Names and meanings of some shell variables"⟩,
  ⟨"wait", "Wait for job completion and return exit status.", none⟩,
  ⟨"while", "Execute commands as long as a test succeeds.",
    some "while COMMANDS; do COMMANDS-2; done"⟩,
  ⟨"\x7b ... \x7d", "Group commands as a unit.", some "\x7b COMMANDS ; \x7d"⟩]

/-- How a topic is written. -/
def usage (t : HelpTopic) : Text :=
  match t.form with
  | some form => form.toList
  | none => usageText t.name

/-- The topics that a text means: those of its name or that it fits as a pattern, or else those
whose names it starts. -/
def matching (word : Text) : List HelpTopic :=
  let p := Pattern.of false (Marked.ofText true word)
  match all.filter fun t ↦ t.name.toList = word || p.fits (wide t.name.toList) with
  | [] => all.filter fun t ↦ word.isPrefixOf t.name.toList
  | found => found

/-- What is said on a topic: a summary, how it is written, or both. -/
def text (summaryOnly usageOnly : Bool) (t : HelpTopic) : Text :=
  if summaryOnly then t.name.toList ++ " - ".toList ++ t.summary.toList ++ ['\n']
  else t.name.toList ++ ": ".toList ++ t.usage ++ ['\n'] ++
    if usageOnly then [] else "    ".toList ++ t.summary.toList ++ ['\n']

end HelpTopic

/-- The command `help`. -/
def tellHelp : Utility := fun arguments ↦
  withFlags "help" "dms" "" arguments fun f ↦ do
    match f.others with
    | [] => return 0
    | first :: rest =>
      if (Marked.ofText true first).isOpen false then
        put ((if rest.isEmpty then "Shell commands matching keyword \x60"
            else "Shell commands matching keywords \x60").toList ++
          ", ".toList.intercalate f.others ++ "'\n\n".toList)
      let found := f.others.flatMap HelpTopic.matching
      put (found.flatMap (HelpTopic.text (f.has 'd') (f.has 's')))
      if found.isEmpty then
        let t := f.others.getLastD []
        failAs "help" 1 ("no help topics match ".toList ++ citedText t ++
          ".  Try \x60help help' or \x60man -k ".toList ++ t ++ "' or \x60info ".toList ++ t ++
          "'.".toList)
      else return 0

end CommandScript.Shell
