import CommandScript.FileStore
import CommandScript.Settings.EnvFile
import CommandScript.Text.Integer

/-!
# Settings

Each field of the settings is decided by the first source that supplies it: the overrides, the
variables of the environment, the bindings of an environment file, and at last a default. Only the
value that wins is looked at, and settings are made exactly when every winning value is valid for
its field. Names are compared without regard to case; in the environment and in the file they
carry a fixed start.
-/
namespace CommandScript

/-- Which executor carries out the commands. -/
inductive ExecutorChoice where
  /-- The one that prints them. -/
  | echo
  /-- The one that runs them in a shell. -/
  | shell
  deriving DecidableEq, Repr

namespace ExecutorChoice

/-- Every choice. -/
def all : List ExecutorChoice := [.echo, .shell]

/-- The name of a choice. -/
def name : ExecutorChoice → Text
  | .echo => "echo".toList
  | .shell => "shell".toList

/-- The choice of a name, letter for letter. -/
def ofName? (t : Text) : Option ExecutorChoice := all.find? (·.name == t)

end ExecutorChoice

/-- The form in which the log is to be written. -/
inductive ProfileChoice where
  /-- One entry a record. -/
  | default
  /-- A table on the console. -/
  | console
  deriving DecidableEq, Repr

namespace ProfileChoice

/-- Every choice. -/
def all : List ProfileChoice := [.default, .console]

/-- The name of a choice. -/
def name : ProfileChoice → Text
  | .default => "default".toList
  | .console => "console".toList

/-- The choice of a name, letter for letter. -/
def ofName? (t : Text) : Option ProfileChoice := all.find? (·.name == t)

end ProfileChoice

/-- The **settings** of the program. -/
structure Settings where
  /-- The name of the least level that is logged. -/
  logLevel : Text
  /-- The form in which the log is written. -/
  logProfile : ProfileChoice
  /-- The verbose level at which comments are printed. -/
  echoLevel : Int
  /-- The executor. -/
  executor : ExecutorChoice
  /-- The verbose level of the executor. -/
  verboseLevel : Int
  /-- The directory in which a shell runs commands. -/
  shellDirectory : Option Path
  deriving DecidableEq, Repr

namespace Settings

/-- The **fields** of the settings. -/
inductive Field where
  /-- The least level that is logged. -/
  | logLevel
  /-- The form of the log. -/
  | logProfile
  /-- The verbose level at which comments are printed. -/
  | echoLevel
  /-- The executor. -/
  | executor
  /-- The verbose level of the executor. -/
  | verboseLevel
  /-- The directory of the shell. -/
  | shellDirectory
  deriving DecidableEq, Repr

/-- The name of a field. -/
def Field.name : Field → Text
  | .logLevel => "log_level".toList
  | .logProfile => "log_profile".toList
  | .echoLevel => "echo_verbose_level".toList
  | .executor => "executor".toList
  | .verboseLevel => "verbose_level".toList
  | .shellDirectory => "shell_cwd".toList

/-- A **value** that a source supplies. The environment supplies texts only. -/
inductive Value where
  /-- A text. -/
  | text (t : Text)
  /-- An integer. -/
  | integer (n : Int)
  /-- A floating-point number without a fraction. -/
  | whole (n : Int)
  /-- A floating-point number with a fraction. -/
  | fraction
  /-- A floating-point value that is no finite number. -/
  | infinite
  /-- A truth value. -/
  | truth (b : Bool)
  /-- The value that stands for nothing. -/
  | nothing
  /-- A list or an object. -/
  | compound
  deriving DecidableEq, Repr

/-- What is wrong with a value. -/
inductive Problem where
  /-- A text spells no integer. -/
  | unreadableInteger
  /-- A text spells an integer of too many digits, or a floating-point number is too large. -/
  | oversizedInteger
  /-- A number has a fraction. -/
  | fractionalInteger
  /-- A number is not finite. -/
  | infiniteInteger
  /-- The value is no number. -/
  | notInteger
  /-- The value names no executor. -/
  | unknownExecutor
  /-- The value names no profile. -/
  | unknownProfile
  /-- The value is no text. -/
  | notText
  /-- The value is no path. -/
  | notPath
  deriving DecidableEq, Repr

namespace Problem

/-- The name of a kind of problem. -/
def kind : Problem → Text
  | .unreadableInteger => "int_parsing".toList
  | .oversizedInteger => "int_parsing_size".toList
  | .fractionalInteger => "int_from_float".toList
  | .infiniteInteger => "finite_number".toList
  | .notInteger => "int_type".toList
  | .unknownExecutor => "literal_error".toList
  | .unknownProfile => "literal_error".toList
  | .notText => "string_type".toList
  | .notPath => "path_type".toList

/-- The message of a problem. -/
def message : Problem → Text
  | .unreadableInteger =>
    "Input should be a valid integer, unable to parse string as an integer".toList
  | .oversizedInteger =>
    "Unable to parse input string as an integer, exceeded maximum size".toList
  | .fractionalInteger =>
    "Input should be a valid integer, got a number with a fractional part".toList
  | .infiniteInteger => "Input should be a finite number".toList
  | .notInteger => "Input should be a valid integer".toList
  | .unknownExecutor => "Input should be 'echo' or 'shell'".toList
  | .unknownProfile => "Input should be 'default' or 'console'".toList
  | .notText => "Input should be a valid string".toList
  | .notPath => "Input is not a valid path for <class 'pathlib.Path'>".toList

end Problem

/-- A field whose winning value is not valid, with what is wrong. -/
structure Fault where
  /-- The field. -/
  field : Field
  /-- What is wrong with its value. -/
  problem : Problem
  deriving DecidableEq, Repr

/-- The message of the faults of one set of settings. -/
def faultsMessage (faults : List Fault) : Text :=
  (toString faults.length).toList ++ " for Settings".toList

/-! ### Validation -/

/-- The bound, in both directions, on the floating-point numbers that can be taken as integers. -/
def wholeBound : Nat := Nat.pow 2 63

/-- An integer from a value. -/
def integerOf : Value → Except Problem Int
  | .text t =>
    match Text.readInteger t with
    | .ok n => .ok n
    | .error .malformed => .error .unreadableInteger
    | .error .tooLong => .error .oversizedInteger
  | .integer n => .ok n
  | .whole n => if n.natAbs < wholeBound then .ok n else .error .oversizedInteger
  | .fraction => .error .fractionalInteger
  | .infinite => .error .infiniteInteger
  | .truth b => .ok (if b then 1 else 0)
  | .nothing | .compound => .error .notInteger

/-- A text from a value. -/
def textOf : Value → Except Problem Text
  | .text t => .ok t
  | _ => .error .notText

/-- An executor from a value. -/
def executorOf : Value → Except Problem ExecutorChoice
  | .text t =>
    match ExecutorChoice.ofName? t with
    | some choice => .ok choice
    | none => .error .unknownExecutor
  | _ => .error .unknownExecutor

/-- A profile from a value. -/
def profileOf : Value → Except Problem ProfileChoice
  | .text t =>
    match ProfileChoice.ofName? t with
    | some choice => .ok choice
    | none => .error .unknownProfile
  | _ => .error .unknownProfile

/-- A directory, or none, from a value. -/
def directoryOf : Value → Except Problem (Option Path)
  | .text t => .ok (some (Path.ofText t))
  | .nothing => .ok none
  | _ => .error .notPath

/-! ### Sources -/

/-- A **source** of values, by name. A name may be listed without a value. -/
abbrev Source := List (Text × Option Value)

/-- The start of the names in the environment and in the environment file. -/
def environmentStart : Text := "macroloop_".toList

/-- What a source supplies under a name given in lower case. Of several entries the last counts. -/
def Source.value? (s : Source) (name : Text) : Option Value :=
  (s.reverse.find? fun entry ↦ Text.lowerAscii entry.1 == name).bind (·.2)

/-- What overrides supply under a name given in lower case. Of several entries the first counts. -/
def Source.override? (s : Source) (name : Text) : Option Value :=
  (s.find? fun entry ↦ Text.lowerAscii entry.1 == name).bind (·.2)

/-- The three **sources** of settings. -/
structure Sources where
  /-- The overrides, by the names of the fields. -/
  overrides : Source
  /-- The environment. -/
  environment : Source
  /-- The environment file. -/
  file : Source

/-- The value that wins for a field, if any source supplies one. -/
def Sources.winner? (s : Sources) (field : Field) : Option Value :=
  (s.overrides.override? field.name).or
    ((s.environment.value? (environmentStart ++ field.name)).or
      (s.file.value? (environmentStart ++ field.name)))

/-- The value of a field: the winning one, validated, or else the default. -/
def Sources.field {α : Type} (s : Sources) (field : Field) (validate : Value → Except Problem α)
    (default : α) : Except Problem α :=
  match s.winner? field with
  | some v => validate v
  | none => .ok default

/-- The fault of a field, if it has one. -/
def fault? {α : Type} (field : Field) : Except Problem α → Option Fault
  | .ok _ => none
  | .error problem => some ⟨field, problem⟩

/-- The settings of three sources, or the faults in the order of the fields. -/
def ofSources (s : Sources) : Except (List Fault) Settings :=
  let logLevel := s.field .logLevel textOf "INFO".toList
  let logProfile := s.field .logProfile profileOf .default
  let echoLevel := s.field .echoLevel integerOf 2
  let executor := s.field .executor executorOf .echo
  let verboseLevel := s.field .verboseLevel integerOf 0
  let shellDirectory := s.field .shellDirectory directoryOf none
  match logLevel, logProfile, echoLevel, executor, verboseLevel, shellDirectory with
  | .ok logLevel, .ok logProfile, .ok echoLevel, .ok executor, .ok verboseLevel,
      .ok shellDirectory =>
    .ok ⟨logLevel, logProfile, echoLevel, executor, verboseLevel, shellDirectory⟩
  | _, _, _, _, _, _ =>
    .error ([fault? .logLevel logLevel, fault? .logProfile logProfile,
      fault? .echoLevel echoLevel, fault? .executor executor,
      fault? .verboseLevel verboseLevel, fault? .shellDirectory shellDirectory].filterMap id)

/-! ### Loading -/

/-- Why settings cannot be loaded. -/
inductive LoadError where
  /-- The environment file is not UTF-8. -/
  | undecodable (fault : Text.Utf8.Fault)
  /-- Winning values are not valid. -/
  | invalid (faults : List Fault)
  deriving DecidableEq, Repr

/-- The path of the environment file. -/
def environmentFile : Path := ⟨.here, [".env".toList]⟩

/-- A source of texts. -/
def sourceOfTexts (entries : List (Text × Option Text)) : Source :=
  entries.map fun entry ↦ (entry.1, entry.2.map Value.text)

/-- What the environment file says, nothing when there is no such file. -/
def readEnvironmentFile (files : FileStore) : Except Text.Utf8.Fault EnvFile.Reading :=
  match files.read environmentFile with
  | .error _ => .ok ⟨[], []⟩
  | .ok octets => (Text.Utf8.decodeStrict octets).map EnvFile.parse

/-- What loading settings comes to. -/
structure Loaded where
  /-- The settings, or why there are none. -/
  result : Except LoadError Settings
  /-- The lines of the environment file that were skipped. -/
  skipped : List Nat

/-- Loads settings from overrides, from an environment, and from the environment file. -/
def load (files : FileStore) (environment : List (Text × Text)) (overrides : Source) : Loaded :=
  match readEnvironmentFile files with
  | .error f => ⟨.error (.undecodable f), []⟩
  | .ok read =>
    let environment := environment.map fun entry ↦ (entry.1, some entry.2)
    ⟨(ofSources ⟨overrides, sourceOfTexts environment, sourceOfTexts read.bindings⟩).mapError
      .invalid, read.skipped⟩

end Settings

end CommandScript
