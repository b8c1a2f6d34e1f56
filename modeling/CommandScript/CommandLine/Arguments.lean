import CommandScript.Settings

/-!
# Command line arguments

The first argument names what to do: `run` a script or list its `commands`. After it come options
and exactly one script, in any order. A value may be a part of its option, joined with an equals
sign to a long name and directly to a short one, or it is the next argument, whatever that looks
like. Two hyphens end the options. Of a repeated option the last value counts, and only that one
is looked at. Help may be asked for before the name of what to do and after it; then no value is
looked at, and no script is missed.
-/
namespace CommandScript.CommandLine

/-- What is wrong with the arguments. -/
inductive UsageError where
  /-- There is no argument that names what to do. -/
  | missingCommand
  /-- The argument names nothing that can be done. -/
  | unknownCommand (name : Text)
  /-- An option is not known. -/
  | unknownOption (name : Text)
  /-- An option lacks its value. -/
  | missingValue (name : Text)
  /-- An option has a value and takes none. -/
  | unexpectedValue (name : Text)
  /-- The value of an option is not valid. -/
  | badValue (name value : Text)
  /-- There is no script. -/
  | missingScript
  /-- There is more than one script. -/
  | extraArgument (value : Text)
  /-- The script holds a null character. -/
  | nullInScript
  deriving DecidableEq, Repr

/-- The message of a usage error. -/
def UsageError.message : UsageError → Text
  | .missingCommand => "Missing command.".toList
  | .unknownCommand name => "No such command ".toList ++ Text.quoted name ++ ".".toList
  | .unknownOption name => "No such option: ".toList ++ name
  | .missingValue name => "Option ".toList ++ Text.quoted name ++ " requires an argument.".toList
  | .unexpectedValue name =>
    "Option ".toList ++ Text.quoted name ++ " does not take a value.".toList
  | .badValue name value =>
    "Invalid value for ".toList ++ Text.quoted name ++ ": ".toList ++ Text.quoted value
  | .missingScript => "Missing argument 'SCRIPT'.".toList
  | .extraArgument value => "Got unexpected extra argument (".toList ++ value ++ ")".toList
  | .nullInScript => "Invalid value for 'SCRIPT': embedded null byte".toList

/-- The **options**. Help can be asked for everywhere, and the others belong to `run`. -/
inductive RunOption where
  /-- Help. -/
  | help
  /-- The executor. -/
  | executor
  /-- The verbose level of the executor. -/
  | verbose
  /-- The name of the pause. -/
  | pause
  /-- Whether a script that cannot be opened counts as an empty one. -/
  | lenient
  deriving DecidableEq, Repr

namespace RunOption

/-- Every option. -/
def all : List RunOption := [.help, .executor, .verbose, .pause, .lenient]

/-- The long name of an option. -/
def long : RunOption → Text
  | .help => "--help".toList
  | .executor => "--executor".toList
  | .verbose => "--verbose".toList
  | .pause => "--pause".toList
  | .lenient => "--lenient".toList

/-- The short name of an option. -/
def short? : RunOption → Option Text
  | .executor => some "-e".toList
  | .verbose => some "-v".toList
  | _ => none

/-- Whether an option has a value. -/
def takesValue : RunOption → Bool
  | .help | .lenient => false
  | _ => true

end RunOption

/-- What a single argument looks like. -/
inductive Shape where
  /-- The two hyphens that end the options. -/
  | endOfOptions
  /-- The name of an option, with the value that is joined to it. -/
  | option (name : Text) (joined : Option Text)
  /-- Anything else. -/
  | argument
  deriving DecidableEq, Repr

/-- The shape of an argument. -/
def shapeOf : Text → Shape
  | ['-', '-'] => .endOfOptions
  | '-' :: '-' :: body =>
    let name := '-' :: '-' :: body.takeWhile (· != '=')
    match body.dropWhile (· != '=') with
    | [] => .option name none
    | _ :: value => .option name (some value)
  | '-' :: c :: value => .option ['-', c] (if value.isEmpty then none else some value)
  | _ => .argument

/-- One item that the arguments give. -/
inductive Item where
  /-- An option, with its value or with the empty text. -/
  | option (o : RunOption) (value : Text)
  /-- An argument that belongs to no option. -/
  | argument (t : Text)
  deriving DecidableEq, Repr

/-- The option of a name among those that are allowed. -/
def optionOf? (allowed : List RunOption) (name : Text) : Option RunOption :=
  allowed.find? fun o ↦ o.long == name || o.short? == some name

/-- Puts an item in front of the others, if these are sound. -/
def withItem (item : Item) : Except UsageError (List Item) → Except UsageError (List Item) :=
  Except.map (item :: ·)

/-- The items of arguments, in order. -/
def items (allowed : List RunOption) : List Text → Except UsageError (List Item)
  | [] => .ok []
  | arg :: rest =>
    match shapeOf arg with
    | .endOfOptions => .ok (rest.map .argument)
    | .argument => withItem (.argument arg) (items allowed rest)
    | .option name joined =>
      match optionOf? allowed name with
      | none => .error (.unknownOption name)
      | some o =>
        if o.takesValue then
          match joined, rest with
          | some value, rest => withItem (.option o value) (items allowed rest)
          | none, value :: rest => withItem (.option o value) (items allowed rest)
          | none, [] => .error (.missingValue name)
        else if joined.isSome then .error (.unexpectedValue name)
        else withItem (.option o []) (items allowed rest)

/-- The value of an option, the last one where it is repeated. -/
def lastValue? (items : List Item) (o : RunOption) : Option Text :=
  items.reverse.findSome? fun
    | .option p value => if p = o then some value else none
    | .argument _ => none

/-- The one script among the items. -/
def scriptOf (items : List Item) : Except UsageError Text :=
  match items.filterMap fun | .argument t => some t | .option _ _ => none with
  | [] => .error .missingScript
  | [script] => if script.contains '\x00' then .error .nullInScript else .ok script
  | _ :: extra :: _ => .error (.extraArgument extra)

/-- The value of an option, read by a function that may refuse it. -/
def readValue {α : Type} (items : List Item) (o : RunOption) (read : Text → Option α) :
    Except UsageError (Option α) :=
  match lastValue? items o with
  | none => .ok none
  | some value =>
    match read value with
    | some a => .ok (some a)
    | none => .error (.badValue o.long value)

/-- What is asked for by `run`. -/
structure RunOptions where
  /-- The script. -/
  script : Text
  /-- The executor, when one is named. -/
  executor : Option ExecutorChoice
  /-- The verbose level, when one is given. -/
  verboseLevel : Option Int
  /-- The name of the pause, when the script is to run as one. -/
  pause : Option Text
  /-- Whether a script that cannot be opened counts as an empty one. -/
  lenient : Bool
  deriving DecidableEq, Repr

/-- What help is about. -/
inductive HelpTopic where
  /-- The program. -/
  | program
  /-- Running a script. -/
  | run
  /-- Listing commands. -/
  | commands
  deriving DecidableEq, Repr

/-- What the program is asked to do. -/
inductive Invocation where
  /-- Give help. -/
  | help (topic : HelpTopic)
  /-- Run a script. -/
  | run (options : RunOptions)
  /-- List the commands of a script. -/
  | commands (script : Text)
  deriving DecidableEq, Repr

/-- The options of `run` from its items. The verbose level is read as the settings read integers. A
pause with an empty name is no pause. -/
def runOptions (items : List Item) : Except UsageError RunOptions := do
  let executor ← readValue items .executor ExecutorChoice.ofName?
  let verboseLevel ← readValue items .verbose fun t ↦ (Text.readInteger t).toOption
  let script ← scriptOf items
  return {
    script, executor, verboseLevel
    pause := (lastValue? items .pause).filter (!·.isEmpty)
    lenient := (lastValue? items .lenient).isSome }

/-- What items ask for: help about a topic, or else what a function reads from them. -/
def orHelp (topic : HelpTopic) (read : List Item → Except UsageError Invocation)
    (items : List Item) : Except UsageError Invocation :=
  if (lastValue? items .help).isSome then .ok (.help topic) else read items

/-- Reads the arguments from the name of what to do on. -/
def parseNamed : List Text → Except UsageError Invocation
  | [] => .error .missingCommand
  | name :: rest =>
    if name = "run".toList then
      (items RunOption.all rest).bind (orHelp .run fun is ↦ (runOptions is).map .run)
    else if name = "commands".toList then
      (items [.help] rest).bind (orHelp .commands fun is ↦ (scriptOf is).map .commands)
    else .error (.unknownCommand name)

/-- Reads the arguments, given whether help about the program has been asked for. -/
def parseFrom (asked : Bool) : List Text → Except UsageError Invocation
  | [] => if asked then .ok (.help .program) else .error .missingCommand
  | arg :: rest =>
    match shapeOf arg with
    | .endOfOptions => if asked then .ok (.help .program) else parseNamed rest
    | .argument => if asked then .ok (.help .program) else parseNamed (arg :: rest)
    | .option name joined =>
      match optionOf? [.help] name, joined with
      | none, _ => .error (.unknownOption name)
      | some _, some _ => .error (.unexpectedValue name)
      | some _, none => parseFrom true rest

/-- Reads the arguments. -/
def parse (arguments : List Text) : Except UsageError Invocation := parseFrom false arguments

end CommandScript.CommandLine
