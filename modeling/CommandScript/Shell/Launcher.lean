import CommandScript.Executor.Shell
import CommandScript.Shell.Evaluation

/-!
# A host with a shell

The host on which the shell executor runs its commands: files and an environment. Every command
line gets a shell of its own, which starts in the given directory with the environment as its
variables and with an empty input. The files are kept from one command line to the next, and
nothing else is.
-/
namespace CommandScript.Shell

/-- A **host** of shells. -/
structure Host where
  /-- The files. -/
  files : FileStore
  /-- The environment. -/
  environment : List (Text × Text)

/-- The host whose environment has a home directory and a language beside the given variables. -/
def Host.ofFiles (files : FileStore) (environment : List (Text × Text)) : Host :=
  ⟨files, environment ++ [("HOME".toList, "/nonexistent".toList), ("LANG".toList, "C.UTF-8".toList),
    ("PATH".toList, "/usr/local/bin:/usr/bin:/bin".toList)]⟩

/-- The number of the process of a shell that a host starts. -/
def firstShell : Nat := 4242

/-- The permission bits that new files lack at first. -/
def usualMask : Nat := 0o022

/-- The state in which a shell starts, with the conduits of its input, its output and its error
output. -/
def Host.start (h : Host) (files : FileStore) : State :=
  let b : Beginning := {
    dialect := .extended
    environment := h.environment.map fun v ↦ (toOctets v.1, toOctets v.2)
    called := shellPath
    arguments := []
    origin := ['c']
    switches := []
    process := firstShell
    around := []
    mask := usualMask
    channels := [(0, 0), (1, 1), (2, 2)]
    functions := []
    traps := [] }
  { b.self files with
    files := files
    conduits := [(2, .gather [] 0 false), (1, .gather [] 0 false), (0, .nothing)]
    jobs := []
    readers := []
    concluded := []
    signals := []
    elapsed := 0
    niceness := 0
    nextProcess := firstShell + 1
    seed := firstShell }

/-- Runs a command line as a whole shell, and gives the signal that has ended it, if one has. -/
def runWhole (command : Text) : Act (Option Nat) := do
  let voice := shellPath ++ ": -c: ".toList
  keepSource command
  let result ← attempt (runSource (run fuel) Place.outermost voice 1 command)
  let killed ← endShell (run fuel) result
  let status := (← get).status
  let _ ← attempt (runJobs (run fuel))
  let _ ← attempt (runReaders (run fuel) fun _ ↦ true)
  modify fun s ↦ { s with status }
  return killed

/-- Runs one command line on a host, in its working directory as it is given. -/
def runIn (h : Host) (files : FileStore) (command : Text) : Host × Launched :=
  let (killed, s) := (runWhole (toOctets command)).run.run (h.start files)
  let written (conduit : Nat) : List UInt8 := match s.conduits.lookup conduit with
    | some (.gather parts _ _) => ofOctets parts.reverse.flatten
    | _ => []
  let code : Int := match killed with
    | .ok (some signal) => -signal
    | _ => s.status
  ({ h with files := { s.files with here := h.files.here } }, .ended code (written 1) (written 2))

/-- Runs one command line on a host, which fails to start where there is no such directory. -/
def launchIn (h : Host) (directory : Option Path) (command : Text) : Host × Launched :=
  match directory with
  | none => runIn h h.files command
  | some path =>
    match h.files.enter path with
    | .ok files => runIn h files command
    | .error f => (h, .notStarted (f.message path))

/-- The launcher of a host. -/
def launcher : Launcher Host := ⟨launchIn, fun h file ↦ h.files.octets? file⟩

end CommandScript.Shell
