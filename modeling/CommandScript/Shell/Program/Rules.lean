import CommandScript.Shell.Program.RuleScript.Running

/-!
# Processing records by rules

The program `awk` reads a script of rules, which comes with its arguments or from files, sets the
variables that the script starts with, and runs it on the files that the other arguments name.
-/
namespace CommandScript.Shell

open RuleScript

/-- What is said where there are no arguments. -/
def rulesUsage : Text := ofLines ([
  "Usage: mawk [Options] [Program] [file ...]",
  "",
  "Program:",
  "    The -f option value is the name of a file containing program text.",
  "    If no -f option is given, a \"--\" ends option processing; the following",
  "    parameters are the program text.",
  "",
  "Options:",
  "    -f program-file  Program  text is read from file instead of from the",
  "                     command-line.  Multiple -f options are accepted.",
  "    -F value         sets the field separator, FS, to value.",
  "    -v var=value     assigns value to program variable var.",
  "    --               unambiguous end of options.",
  "",
  "    Implementation-specific options are prefixed with \"-W\".  They can be",
  "    abbreviated:",
  "",
  "    -W version       show version information and exit.",
  "    -W compat        pre-POSIX 2001.",
  "    -W dump          show assembler-like listing of program and exit.",
  "    -W help          show this message and exit.",
  "    -W interactive   set unbuffered output, line-buffered input.",
  "    -W exec file     use file as program as well as last option.",
  "    -W posix         stricter POSIX checking.",
  "    -W random=number set initial random seed.",
  "    -W sprintf=number adjust size of sprintf buffer.",
  "    -W usage         show this message and exit."].map String.toList)

/-- The first line of what is said about the version. -/
def rulesVersion : Text := "mawk 1.3.4 20240123\n".toList

/-- What the options of `awk` choose. -/
structure RuleOptions where
  /-- The assignments to variables. -/
  assignments : List Text := []
  /-- The files that hold the script. -/
  files : List Text := []
  /-- What is written instead of a run, if anything. -/
  notice : Option Text := none
  /-- The words for options that do nothing. -/
  warnings : List Text := []
  /-- The arguments behind the options. -/
  others : List Text := []

namespace RuleOptions

/-- The options with another one, given by its letter. -/
def add (c : RuleOptions) (letter : Char) (value : Text) : RuleOptions :=
  match letter with
  | 'F' => { c with assignments := c.assignments ++ ["FS=".toList ++ value] }
  | 'v' => { c with assignments := c.assignments ++ [value] }
  | 'f' => { c with files := c.files ++ [value] }
  | _ =>
    let isPart (t : String) : Bool := !value.isEmpty && value.isPrefixOf t.toList
    if isPart "version" then { c with notice := some rulesVersion }
    else if isPart "help" ∨ isPart "usage" then { c with notice := some rulesUsage }
    else if ["compat", "dump", "interactive", "posix", "random", "sprintf"].any isPart then c
    else { c with
      warnings := c.warnings ++ ["vacuous option: -W \"".toList ++ value ++ ['"']] }

/-- Reads options, or gives the words for what is wrong. -/
def read (c : RuleOptions) : List Text → Except Text RuleOptions
  | [] => .ok c
  | t :: rest =>
    match t with
    | ['-', '-'] => .ok { c with others := rest }
    | '-' :: letter :: attached =>
      if t = "--version".toList then read (c.add 'W' "version".toList) rest
      else if t = "--help".toList ∨ t = "--usage".toList then read (c.add 'W' "help".toList) rest
      else if !("FvfW".toList.contains letter) then .error ("not an option: ".toList ++ t)
      else if !attached.isEmpty then read (c.add letter attached) rest
      else match rest with
        | value :: rest => read (c.add letter value) rest
        | [] => .error ("option ".toList ++ t ++ " lacks argument".toList)
    | _ => .ok { c with others := t :: rest }

end RuleOptions

/-- The words about a fault of a script. -/
def RuleScript.RuleFault.told (f : RuleFault) : Text :=
  match f.place with
  | none => f.words
  | some place =>
    (match place.source with
      | some name => name ++ ": ".toList
      | none => []) ++ "line ".toList ++ shown place.line ++ ": ".toList ++ f.words

namespace RuleScript

/-- The state in which the run of a script starts, before any assignment. -/
def start (script : RuleScript) (voice : Text) : Run :=
  { voice
    globals := Array.replicate script.names.length (.value .unset)
    tables := #[] }

/-- Sets the variables that every script has. -/
def prepare (arguments : List Text) (environment : List (Text × Text)) : RunM Unit := do
  for (name, t) in [("FS", " "), ("OFS", " "), ("ORS", "\n"), ("RS", "\n"), ("SUBSEP", "\x1c"),
      ("CONVFMT", "%.6g"), ("OFMT", "%.6g"), ("FILENAME", "")] do
    RunM.setSpecial name (.text t.toList)
  for name in ["NR", "FNR", "NF"] do
    RunM.setSpecial name (.number 0)
  let values ← RunM.tableOf (.global (special "ENVIRON"))
  for (name, t) in environment do
    RunM.put values (.name name) (.input t)
  let list ← RunM.tableOf (.global (special "ARGV"))
  for (t, i) in arguments.zipIdx do
    RunM.put list (.number i) (.input t)
  RunM.setSpecial "ARGC" (.ofNat arguments.length)

end RuleScript

section Processing

variable (launch : Launch) (run : Runner)

/-- The sources of a script in files, each with its name; or the words for a file that cannot be
read. -/
def ruleSources : List Text → Act (Except Text (List (Option Text × Text)))
  | [] => return .ok []
  | name :: rest => do
    let source ← readInput name
    match source with
    | .error .isDirectory => return .error "read error (Is a directory)".toList
    | .error f =>
      return .error ("cannot open \"".toList ++ name ++ "\" (".toList ++ f.words ++ [')'])
    | .ok t => return (← ruleSources rest).map ((some name, t) :: ·)

/-- The program `awk`, as it is called. -/
def processRecords (called : Text) : Utility := fun arguments ↦ do
  let voice := (called.reverse.takeWhile (· != '/')).reverse
  let refuse (words : Text) : Act Nat := do
    tellLine (voice ++ ": ".toList ++ words)
    return 2
  if arguments.isEmpty then
    tell rulesUsage
    return 0
  match ({} : RuleOptions).read arguments with
  | .error words => refuse words
  | .ok c =>
    for words in c.warnings do tellLine (voice ++ ": ".toList ++ words)
    if let some t := c.notice then
      put t
      return 0
    if let some t := c.assignments.find? fun t ↦
        !t.contains '=' || !isVariableName (t.takeWhile (· != '=')) then
      return ← refuse ("improper assignment: -v ".toList ++ t)
    let sources ← match c.files, c.others with
      | [], [] => pure (.ok [])
      | [], t :: _ => pure (.ok [(none, t)])
      | files, _ => ruleSources files
    match sources with
    | .error words => refuse words
    | .ok sources =>
      match RuleScript.read sources with
      | .error faults =>
        for f in faults do tellLine (voice ++ ": ".toList ++ f.told)
        return 2
      | .ok script =>
        let operands := if c.files.isEmpty then c.others.drop 1 else c.others
        let act : RunM Unit := do
          RuleScript.prepare (voice :: operands) (← getThe State).environment
          for t in c.assignments do
            let _ ← RunM.assignArgument script.names t
          RunM.runAll script launch run
        let (_, after) ← (act.run).run (script.start voice)
        return after.status

end Processing

end CommandScript.Shell
