import CommandScript.CommandLine.Arguments
import CommandScript.Console.Sequence
import CommandScript.Executor.Echo
import CommandScript.Executor.Shell
import CommandScript.Log.Configuration
import CommandScript.Reader.Listing
import CommandScript.Session.Run

/-!
# The program

What the program does for its arguments, given the files, the environment, its console with what
that can show, and a launcher for shell commands. The result is how the program ends and what it has
written to its two outputs by then. A run is fatal when a command is rejected; a script that
cannot be opened is told apart from that by the exit status.
-/
namespace CommandScript.CommandLine

/-- What surrounds a run of the program. -/
structure Surroundings (η : Type) where
  /-- The files. -/
  files : FileStore
  /-- The variables of the environment. -/
  environment : List (Text × Text)
  /-- The columns of the console. -/
  width : Nat
  /-- The pictures that the console knows. -/
  pictures : Console.Pictures
  /-- The texts of help, as they are laid out. -/
  help : HelpTopic → Text
  /-- How shell commands are launched. -/
  launcher : Launcher η
  /-- The host on which shell commands run. -/
  host : η

/-- How the program ends. -/
inductive Ending where
  /-- It exits with a status. -/
  | exit (status : Nat)
  /-- Its arguments are not sound. -/
  | usage (e : UsageError)
  /-- Its settings are not valid. -/
  | badSettings (faults : List Settings.Fault)
  /-- The level of its log is not known. -/
  | unknownLevel (level : Text)
  /-- Something escapes from it. -/
  | escaped (e : Escape)
  deriving DecidableEq, Repr

/-- How the program ends, what it has written, and the state in which it leaves the host. -/
structure Result (η : Type) where
  /-- How it ends. -/
  ending : Ending
  /-- What it has written to the standard output. -/
  out : Text
  /-- What it has written to the error output. -/
  err : Text
  /-- The host after it. -/
  host : η

/-- The exit status of a run in which a command is rejected. -/
def rejectedStatus : Nat := 1

/-- The exit status for a script that cannot be opened. -/
def unreadableStatus : Nat := 2

section Results

variable {η : Type}

/-- An ending before anything is written or changed. -/
def Result.silent (host : η) (ending : Ending) : Result η := ⟨ending, [], [], host⟩

/-- The result with one more line on the error output, which is no terminal. -/
def Result.complain (r : Result η) (message : Text) : Result η :=
  { r with err := r.err ++ Console.withoutSequences message ++ ['\n'] }

/-- The result with texts, each as a line, on the error output before all else. -/
def Result.warned (r : Result η) (messages : List Text) : Result η :=
  { r with err := messages.flatMap (· ++ ['\n']) ++ r.err }

/-- What an event writes on a console of a width with a configured log, and where. -/
def writeEvent (pictures : Console.Pictures) (width : Nat) (log : Log.Configuration) :
    Event → Option (Log.Output × Text)
  | .applied _ => none
  | .logged r => log.write width r
  | .printed .listing t => some (.out, Console.render pictures width t)
  | .printed .alert t => some (.err, Console.render pictures width t)

/-- What a trace writes to one of the outputs. -/
def writeTrace (pictures : Console.Pictures) (width : Nat) (log : Log.Configuration)
    (output : Log.Output) (trace : Trace) : Text :=
  trace.flatMap fun event ↦
    match writeEvent pictures width log event with
    | some (o, t) => if o = output then t else []
    | none => []

/-- The result of an ending after a trace. -/
def Result.ofTrace (host : η) (ending : Ending) (pictures : Console.Pictures) (width : Nat)
    (log : Log.Configuration) (trace : Trace) : Result η :=
  ⟨ending, writeTrace pictures width log .out trace, writeTrace pictures width log .err trace,
    host⟩

end Results

/-! ### Listing -/

/-- The trace of a listing: every reading's records, and every command before the exit
command. -/
def listingTrace (readings : List Reading) : Trace :=
  readings.flatMap fun reading ↦
    reading.records.map Event.logged ++
      if reading.command = exitCommand then [] else [.printed .listing reading.command]

/-- Lists the commands of a script. -/
def list {η : Type} (around : Surroundings η) (script : Text) : Result η :=
  let path := Path.ofText script
  match around.files.openFile path with
  | .ok (_, octets) =>
    .ofTrace around.host (.exit 0) around.pictures around.width .atStart
      (listingTrace (Script.reader octets).readings)
  | .error .embeddedNull => .silent around.host (.escaped .embeddedNull)
  | .error (.refused _) =>
    (Result.silent around.host (.exit unreadableStatus)).complain
      (Escape.scriptUnreadable path).message

/-! ### Running -/

/-- The overrides that the options of `run` make. -/
def overridesOf (options : RunOptions) : Settings.Source :=
  (options.executor.toList.map fun choice ↦
    (Settings.Field.executor.name, some (.text choice.name))) ++
  (options.verboseLevel.toList.map fun n ↦
    (Settings.Field.verboseLevel.name, some (.integer n)))

/-- Runs a script with an executor from a state, and writes with a configured log. The state of the
executor takes the place of the host in the result. Neither of the program's own executors has other
scripts run; one that has may do so down to a depth. -/
def runWith {σ : Type} (x : Executor Unit σ) (state : σ) (files : FileStore)
    (pictures : Console.Pictures) (width : Nat) (log : Log.Configuration) (echoLevel : Int)
    (options : RunOptions) (depth : Nat := 0) : Result σ :=
  match Session.openScript files (Path.ofText options.script) () echoLevel (!options.lenient) with
  | .error (.scriptUnreadable path) =>
    (Result.silent state (.exit unreadableStatus)).complain (Escape.scriptUnreadable path).message
  | .error e => .silent state (.escaped e)
  | .ok (s, records) =>
    let ran := s.runOrPause x (Session.nesting x files depth) options.pause state
    let trace := records.map Event.logged ++ ran.trace
    match ran.value.1 with
    | .error e => .ofTrace ran.state (.escaped e) pictures width log trace
    | .ok summary =>
      match summary.error with
      | none => .ofTrace ran.state (.exit 0) pictures width log trace
      | some rejection =>
        (Result.ofTrace ran.state (.exit rejectedStatus) pictures width log trace).complain
          rejection.message

/-- Runs a script with given settings. -/
def runSettings {η : Type} (around : Surroundings η) (settings : Settings)
    (log : Log.Configuration) (options : RunOptions) : Result η :=
  match settings.executor with
  | .echo =>
    let r := runWith .echo ⟨settings.verboseLevel, []⟩ around.files around.pictures around.width
      log settings.echoLevel options
    { r with host := around.host }
  | .shell =>
    let r := runWith (.shell around.launcher)
      ⟨around.host, settings.verboseLevel, settings.shellDirectory⟩ around.files around.pictures
      around.width log settings.echoLevel options
    { r with host := r.host.host }

/-- Runs a script with given settings, or ends for want of them. The log is configured before the
script is opened. -/
def runLoaded {η : Type} (around : Surroundings η) (options : RunOptions) :
    Except Settings.LoadError Settings → Result η
  | .error (.undecodable f) => .silent around.host (.escaped (.undecodable f))
  | .error (.invalid faults) => .silent around.host (.badSettings faults)
  | .ok settings =>
    let configured := Log.Configuration.empty.configure settings.logLevel settings.logProfile.name
    match configured.1 with
    | .error level => .silent around.host (.unknownLevel level)
    | .ok () => runSettings around settings configured.2 options

/-- Runs a script. The settings are loaded first, with a warning for each line of the environment
file that is skipped. -/
def run {η : Type} (around : Surroundings η) (options : RunOptions) : Result η :=
  let loaded := Settings.load around.files around.environment (overridesOf options)
  (runLoaded around options loaded.result).warned (loaded.skipped.map EnvFile.skippedMessage)

/-! ### The whole program -/

/-- Runs the program for its arguments. -/
def invoke {η : Type} (around : Surroundings η) (arguments : List Text) : Result η :=
  match parse arguments with
  | .error e => .silent around.host (.usage e)
  | .ok (.help topic) => ⟨.exit 0, around.help topic, [], around.host⟩
  | .ok (.run options) => run around options
  | .ok (.commands script) => list around script

/-- Whether a run hands its commands to a shell, as far as its settings can be loaded. -/
def usesShell {η : Type} (around : Surroundings η) (arguments : List Text) : Bool :=
  match parse arguments with
  | .ok (.run options) =>
    match (Settings.load around.files around.environment (overridesOf options)).result with
    | .ok settings => settings.executor = .shell
    | .error _ => false
  | _ => false

/-- What is written about an ending that is no plain exit, and the exit status. -/
def closing : Ending → Option Text × Nat
  | .exit status => (none, status)
  | .usage e => (some e.message, 2)
  | .badSettings faults => (some (Settings.faultsMessage faults), 1)
  | .unknownLevel level => (some (Log.Configuration.unknownLevel level), 1)
  | .escaped e => (some e.message, 1)

end CommandScript.CommandLine
