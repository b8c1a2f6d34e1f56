import CommandScript.FileStore
import CommandScript.Shell.Parser
import CommandScript.Shell.Pattern
import CommandScript.Shell.Signal
import CommandScript.Shell.Variable

/-!
# The state of a shell

What belongs to one shell is copied when another one is made from it: variables, functions,
arguments, options, traps, and where its channels lead. Files, and what the channels lead to, are
shared by all. A computation on the state may leave what it is part of; it then still gives the
state that it leaves behind.
-/
namespace CommandScript.Shell

/-! ### Options -/

/-- The **switches** of a shell that `set` turns on and off. -/
inductive Switch where
  /-- Variables that are assigned to are seen by programs. -/
  | allexport
  /-- Braces are expanded. -/
  | braceexpand
  /-- Lines are edited in one way. -/
  | emacs
  /-- A failure leaves the shell. -/
  | errexit
  /-- Functions run what the shell has for failures. -/
  | errtrace
  /-- Functions run what the shell has for every command. -/
  | functrace
  /-- Programs that have been found are remembered. -/
  | hashall
  /-- Earlier lines are expanded. -/
  | histexpand
  /-- Lines are remembered. -/
  | history
  /-- The end of the input does not leave the shell. -/
  | ignoreeof
  /-- Comments are allowed. -/
  | comments
  /-- Assignments may stand behind the name of a command. -/
  | keyword
  /-- Jobs are controlled. -/
  | monitor
  /-- Files are not overwritten. -/
  | noclobber
  /-- Commands are read and not run. -/
  | noexec
  /-- Patterns of paths stand for themselves. -/
  | noglob
  /-- Functions are not remembered as lines. -/
  | nolog
  /-- The ends of jobs are told at once. -/
  | notify
  /-- A variable without a value is an error. -/
  | nounset
  /-- The shell leaves after one command. -/
  | onecmd
  /-- Directories are named without links. -/
  | physical
  /-- A failure within a pipeline is one of the pipeline. -/
  | pipefail
  /-- The standard is followed. -/
  | posix
  /-- The shell has rights of its own. -/
  | privileged
  /-- Lines are shown when they are read. -/
  | verbose
  /-- Lines are edited in another way. -/
  | vi
  /-- Every command is shown before it runs. -/
  | xtrace
  deriving DecidableEq, Repr

/-- The switches by name, in order, with their letters. -/
def Switch.table : List (Switch × String × Option Char) := [
  (.allexport, "allexport", some 'a'), (.braceexpand, "braceexpand", some 'B'),
  (.emacs, "emacs", none), (.errexit, "errexit", some 'e'), (.errtrace, "errtrace", some 'E'),
  (.functrace, "functrace", some 'T'), (.hashall, "hashall", some 'h'),
  (.histexpand, "histexpand", some 'H'), (.history, "history", none),
  (.ignoreeof, "ignoreeof", none), (.comments, "interactive-comments", none),
  (.keyword, "keyword", some 'k'), (.monitor, "monitor", some 'm'),
  (.noclobber, "noclobber", some 'C'), (.noexec, "noexec", some 'n'), (.noglob, "noglob", some 'f'),
  (.nolog, "nolog", none), (.notify, "notify", some 'b'), (.nounset, "nounset", some 'u'),
  (.onecmd, "onecmd", some 't'), (.physical, "physical", some 'P'), (.pipefail, "pipefail", none),
  (.posix, "posix", none), (.privileged, "privileged", some 'p'), (.verbose, "verbose", some 'v'),
  (.vi, "vi", none), (.xtrace, "xtrace", some 'x')]

/-- The switch of a letter. -/
def Switch.ofLetter? (letter : Char) : Option Switch :=
  (table.find? fun e ↦ e.2.2 = some letter).map (·.1)

/-- The switch of a name. -/
def Switch.ofName? (name : Text) : Option Switch :=
  (table.find? fun e ↦ e.2.1.toList = name).map (·.1)

/-- The features of a shell that `shopt` turns on and off. -/
def featureNames : List String := [
  "autocd", "assoc_expand_once", "cdable_vars", "cdspell", "checkhash", "checkjobs", "checkwinsize",
  "cmdhist", "compat31", "compat32", "compat40", "compat41", "compat42", "compat43", "compat44",
  "complete_fullquote", "direxpand", "dirspell", "dotglob", "execfail", "expand_aliases",
  "extdebug", "extglob", "extquote", "failglob", "force_fignore", "globasciiranges",
  "globskipdots", "globstar", "gnu_errfmt", "histappend", "histreedit", "histverify",
  "hostcomplete", "huponexit", "inherit_errexit", "interactive_comments", "lastpipe", "lithist",
  "localvar_inherit", "localvar_unset", "login_shell", "mailwarn", "no_empty_cmd_completion",
  "nocaseglob", "nocasematch", "noexpand_translation", "nullglob", "patsub_replacement",
  "progcomp", "progcomp_alias", "promptvars", "restricted_shell", "shift_verbose", "sourcepath",
  "varredir_close", "xpg_echo"]

/-- The features that are on when a shell starts. -/
def usualFeatures : List String := [
  "checkwinsize", "cmdhist", "complete_fullquote", "extquote", "force_fignore", "globasciiranges",
  "globskipdots", "hostcomplete", "interactive_comments", "patsub_replacement", "progcomp",
  "promptvars", "sourcepath"]

/-! ### Channels -/

/-- What a numbered channel leads to. -/
inductive Conduit where
  /-- Nothing: reading gives nothing, and what is written is lost. -/
  | nothing
  /-- A place in a file, with whether it is read and written, and whether writing appends. -/
  | file (node offset : Nat) (reads writes appends : Bool)
  /-- A directory, which cannot be read as a file. -/
  | directory
  /-- A text that is still to be read. -/
  | feed (rest : Text)
  /-- Texts that have been written, the latest first, with their length, and whether they are for a
  command that may read no more than a part of them. -/
  | gather (parts : List Text) (size : Nat) (bounded : Bool)
  deriving DecidableEq, Repr

/-! ### The state -/

/-- A **function** of a shell. -/
structure Function where
  /-- Its body. -/
  body : Tree
  /-- The line at which it has been defined. -/
  line : Nat
  /-- The name of the file that defines it. -/
  origin : Text
  /-- Whether programs see it. -/
  exported : Bool

/-- A **call** under way, of a function or of a file of commands. -/
structure Frame where
  /-- The name of the function, or what stands for a file. -/
  name : Text
  /-- The line of the call. -/
  line : Nat
  /-- The name of the file whose commands run. -/
  origin : Text
  /-- Whether it is the call of a function. -/
  isFunction : Bool
  deriving DecidableEq, Repr

/-- What kind of simple command a shell has been made for, if it has been made for one. -/
inductive Awaited where
  /-- None. -/
  | nothing
  /-- A command of a pipeline. -/
  | stage
  /-- A command beside another shell. -/
  | job
  deriving DecidableEq, Repr

/-- A program that a shell remembers. -/
structure Known where
  /-- Its path. -/
  path : Text
  /-- How often it has been run. -/
  hits : Nat
  deriving DecidableEq, Repr

/-- What belongs to one shell. -/
structure Self where
  /-- The variables, in scopes of which the innermost comes first. -/
  scopes : List Scope
  /-- The functions by name. -/
  functions : List (Text × Function)
  /-- The aliases by name. -/
  aliases : List (Text × Text)
  /-- The switches that are on. -/
  switches : List Switch
  /-- The features that are on. -/
  features : List String
  /-- The commands of the shell that are not looked up. -/
  disabled : List Text
  /-- The language. -/
  dialect : Dialect
  /-- The letters of the options that say where commands come from. -/
  origin : Text
  /-- The name of the shell. -/
  called : Text
  /-- The name under which errors are reported. -/
  speaker : Text
  /-- The name of the command under way, in reports of arithmetic errors. -/
  speaking : Text
  /-- What a shell of the standard tells with each fault: the command whose source is under way. -/
  within : Text
  /-- The arguments. -/
  arguments : List Text
  /-- The number of the process that the shell was started as. -/
  shellProcess : Nat
  /-- The number of the process in which the shell runs. -/
  process : Nat
  /-- The numbers of the processes that wait for it, the latest first. -/
  around : List Nat
  /-- How many shells have been made one from the other. -/
  subshells : Nat
  /-- The simple command that the shell has been made for, if it has been made for one. -/
  purpose : Awaited
  /-- That command as long as it is still to come. -/
  awaited : Awaited
  /-- How many sources stand around the command under way, as a trace shows it. -/
  nesting : Nat
  /-- The calls under way, the latest first. -/
  frames : List Frame
  /-- What is run when a signal comes. -/
  traps : List (Nat × Text)
  /-- What the shell that this one is made from runs when a signal comes, as long as nothing else
  has been said. -/
  formerTraps : List (Nat × Text)
  /-- The signal for which something runs. -/
  handling : Option Nat
  /-- The line of the command under way. -/
  line : Nat
  /-- The line that is told between simple commands. -/
  base : Nat
  /-- The status of the last command. -/
  status : Nat
  /-- The statuses of the commands of the last pipeline. -/
  statuses : List Nat
  /-- The number of the last command that runs beside the shell. -/
  beside : Option Nat
  /-- The command under way as a text. -/
  command : Text
  /-- The working directory as it was given. -/
  directory : Text
  /-- The directories that one can go back to. -/
  stack : List Text
  /-- The bits that new files lack. -/
  mask : Nat
  /-- The place within an argument at which options are read. -/
  optionPlace : Nat
  /-- The programs that are remembered, by name. -/
  hashed : List (Text × Known)
  /-- The moment at which a signal comes, with the signal and the process that sends it. -/
  deadline : Option (Nat × Nat × Nat)
  /-- The conduits of the channels, by their numbers. -/
  channels : List (Nat × Nat)
  /-- The channels that are lent to command lines in the place of files, the latest first. -/
  lent : List Nat

/-- A **job**: a command that runs beside the shell. -/
structure Job where
  /-- Its number among the jobs. -/
  number : Nat
  /-- The number of its process. -/
  process : Nat
  /-- The command. -/
  tree : Tree
  /-- The command as a text. -/
  text : Text
  /-- The shell in which it runs. -/
  self : Self
  /-- Its directory. -/
  here : Location
  /-- Its status when it has ended. -/
  status : Option Nat
  /-- Whether it belongs to the shell no more. -/
  disowned : Bool
  /-- Whether it is one of a shell around this one. -/
  inherited : Bool

/-- A **reader**: a command line that reads what is written to a conduit, once that is complete. -/
structure Reader where
  /-- The conduit. -/
  conduit : Nat
  /-- The command line. -/
  source : Text
  /-- The shell in which it runs. -/
  self : Self
  /-- Its directory. -/
  here : Location
  /-- Whether it runs no sooner than another program does, or than something waits for it. -/
  late : Bool

/-- The **state** of a shell. -/
structure State extends Self where
  /-- The files. -/
  files : FileStore
  /-- What channels lead to, by number, the latest first. -/
  conduits : List (Nat × Conduit)
  /-- The jobs, the latest first. -/
  jobs : List Job
  /-- The command lines that wait for what is written, the latest first. -/
  readers : List Reader
  /-- The statuses of command lines in the place of files that have ended, by their processes. -/
  concluded : List (Nat × Nat)
  /-- The signals that have come for processes which wait for others, with the processes. -/
  signals : List (Nat × Nat)
  /-- How many microseconds have been slept through. -/
  elapsed : Nat
  /-- How far the process under way stands back behind others. -/
  niceness : Int
  /-- The number of the next process. -/
  nextProcess : Nat
  /-- Where the row of random numbers stands. -/
  seed : Nat

/-- How a computation leaves what it is part of. -/
inductive Leave where
  /-- The shell exits with the status of its state. -/
  | exits
  /-- The rest of the line is dropped. -/
  | drops
  /-- A fault makes the shell exit. -/
  | aborts
  /-- An arithmetic expression has no value. -/
  | valueless
  /-- Something cannot be written. -/
  | unwritable
  /-- A signal ends the process of the shell. -/
  | killed (signal : Nat)
  /-- A number of loops around the command end. -/
  | breaks (loops : Nat)
  /-- The last of a number of loops around the command goes on with its next round. -/
  | continues (loops : Nat)
  /-- The function around the command ends. -/
  | returns
  deriving DecidableEq, Repr

/-- A computation on the state of a shell. -/
abbrev Act := ExceptT Leave (StateM State)

/-- What a command knows of where it stands. -/
structure Place where
  /-- Whether its failure is looked at by what is around it. -/
  guarded : Bool
  /-- Whether it takes the place of the shell, since nothing comes after it. -/
  final : Bool
  /-- Whether it is a part of a list of commands. -/
  listed : Bool
  /-- How many loops are around it. -/
  loops : Nat
  deriving DecidableEq, Repr

/-- The place of a command line by itself. -/
def Place.outermost : Place := ⟨false, true, false, 0⟩

/-- The place of a command line after which something comes. -/
def Place.inner : Place := ⟨false, false, false, 0⟩

/-- What runs a tree at a place. -/
abbrev Runner := Place → Tree → Act Unit

/-- What a utility does with its arguments: it gives a status. -/
abbrev Utility := List Text → Act Nat

/-- Runs a computation to its end or to where it leaves. -/
def attempt {α : Type} (act : Act α) : Act (Except Leave α) := fun s ↦
  let (result, s) := act.run s
  (.ok result, s)

/-- Goes on as a computation did that has been attempted. -/
def resume {α : Type} (result : Except Leave α) : Act α :=
  match result with
  | .ok a => return a
  | .error leave => throw leave

/-- Runs a computation and then another one, in whatever way the first one leaves. -/
def andAlways {α : Type} (act : Act α) (after : Act Unit) : Act α := do
  let result ← attempt act
  after
  resume result

/-- Goes on with a line to be told between simple commands, and then with that from before. -/
def atLine {α : Type} (line : Nat) (act : Act α) : Act α := do
  let old := (← get).base
  modify fun s ↦ { s with line, base := line }
  andAlways act (modify fun s ↦ { s with line := old, base := old })

namespace State

/-- Whether a switch is on. -/
def isOn (s : State) (switch : Switch) : Bool := s.switches.contains switch

/-- Whether a feature is on. -/
def hasFeature (s : State) (name : String) : Bool := s.features.contains name

/-- Whether the shell speaks the language of the standard. -/
def isStandard (s : State) : Bool := s.dialect = .standard

/-- The letters of the switches that are on. -/
def switchLetters (s : State) : Text :=
  let order := if s.isStandard then "ubaCEVvxnmIfe" else "abefhkmnptuvxBCEHPT"
  (order.toList.filter fun c ↦ ((Switch.ofLetter? c).map s.isOn).getD false &&
    !(s.isStandard && c = 'h')) ++ s.origin

/-- The switches of a shell that are on, as one text. -/
def switchNames (s : State) : Text :=
  [':'].intercalate ((Switch.table.filter fun e ↦ s.isOn e.1).map fun e ↦ e.2.1.toList)

/-- Whether a function is under way. -/
def inFunction (s : State) : Bool := s.frames.any (·.isFunction)

/-- Whether anything is under way that can be returned from. -/
def canReturn (s : State) : Bool := !s.frames.isEmpty

/-- The function under way whose name is to be shown. -/
def functionNames (s : State) : List Text :=
  if s.inFunction then s.frames.map (·.name) ++
    (if s.origin.contains 'c' then [] else ["main".toList])
  else []

/-- The rules by which a source is read. -/
def rules (s : State) : Rules where
  dialect := s.dialect
  choices := s.hasFeature "extglob"
  aliases := if s.hasFeature "expand_aliases" ∨ s.isStandard then s.aliases else []

/-- The state between simple commands. -/
def betweenCommands (s : State) : State := { s with line := s.base }

/-- What the shell says about a command under way. -/
def remark (s : State) (message : Text) : Text :=
  let place := if s.isStandard then shown s.line else "line ".toList ++ shown s.line
  s.speaker ++ ": ".toList ++ place ++ ": ".toList ++ s.within ++ message ++ ['\n']

end State

/-- The status that a signal gives. -/
def signalStatus (signal : Nat) : Nat := 128 + signal

/-! ### Conduits -/

/-- The conduit of a channel. -/
def conduitOf? (channel : Nat) : Act (Option (Nat × Conduit)) := do
  let s ← get
  return (s.channels.lookup channel).bind fun n ↦ (s.conduits.lookup n).map fun p ↦ (n, p)

/-- What a channel leads to. -/
def State.conduitAt? (s : State) (channel : Nat) : Option Conduit :=
  (s.channels.lookup channel).bind fun n ↦ s.conduits.lookup n

/-- Changes a conduit. -/
def setConduit (n : Nat) (p : Conduit) : Act Unit := modify fun s ↦
  { s with conduits := s.conduits.map fun e ↦ if e.1 = n then (n, p) else e }

/-- The number of the next conduit. -/
def State.nextConduit (s : State) : Nat := (s.conduits.head?.map fun e ↦ e.1 + 1).getD 0

/-- Adds a conduit and gives its number. -/
def newConduit (p : Conduit) : Act Nat := do
  let s ← get
  let n := s.nextConduit
  set { s with conduits := (n, p) :: s.conduits }
  return n

/-- Lets a channel lead to a conduit. -/
def setChannel (channel conduit : Nat) : Act Unit := modify fun s ↦
  { s with channels := (channel, conduit) :: s.channels.filter fun e ↦ e.1 != channel }

/-- Closes a channel. -/
def closeChannel (channel : Nat) : Act Unit := modify fun s ↦
  { s with channels := s.channels.filter fun e ↦ e.1 != channel }

/-- How much can be written for a command that reads no more, until that is noticed. -/
def pipeCapacity : Nat := 0x100000

/-- The octets of a file after some have been written at an offset. -/
def splice (octets : List UInt8) (offset : Nat) (added : List UInt8) : List UInt8 :=
  octets.take offset ++ List.replicate (offset - octets.length) 0 ++ added ++
    octets.drop (offset + added.length)

/-- Writes a text to a conduit. -/
def writeToConduit (n : Nat) (p : Conduit) (t : Text) : Act Bool := do
  match p with
  | .nothing => return true
  | .gather parts size bounded =>
    if bounded && pipeCapacity < size then throw (.killed Signal.pipe)
    setConduit n (.gather (t :: parts) (size + t.length) bounded)
    return true
  | .file node offset reads true appends =>
    let s ← get
    let old := (s.files.octets? node).getD []
    let added := ofOctets t
    let offset := if appends then old.length else offset
    set { s with files := s.files.store node (splice old offset added) }
    setConduit n (.file node (offset + added.length) reads true appends)
    return true
  | _ => return false

/-- Writes a text to a channel, and gives whether that was possible. -/
def writeTo (channel : Nat) (t : Text) : Act Bool := do
  match ← conduitOf? channel with
  | some (n, p) => if t.isEmpty then return true else writeToConduit n p t
  | none => return t.isEmpty

/-- Writes a text to the output. -/
def put (t : Text) : Act Unit := do
  if !(← writeTo 1 t) then throw .unwritable

/-- Writes a line to the output. -/
def putLine (t : Text) : Act Unit := put (t ++ ['\n'])

/-- Writes a text to the error output. -/
def tell (t : Text) : Act Unit := do
  let _ ← writeTo 2 t

/-- Writes a line to the error output. -/
def tellLine (t : Text) : Act Unit := tell (t ++ ['\n'])

/-- Reports something about the command under way. -/
def complain (message : Text) : Act Unit := do tell ((← get).remark message)

/-- Reports something about the command under way, and gives a status. -/
def failWith (status : Nat) (message : Text) : Act Nat := do
  complain message
  return status

/-- Leaves with a report. A shell of the standard exits at once. -/
def refuse {α : Type} (leave : Leave) (message : Text) : Act α := do
  complain message
  let s ← get
  if s.isStandard then
    set { s with status := 2 }
    throw .aborts
  else throw leave

/-- Reads all that is left of a channel. Nothing is read from a channel that leads to no file. -/
def readAll (channel : Nat) : Act (Except FileFault Text) := do
  match ← conduitOf? channel with
  | some (n, .feed rest) =>
    setConduit n (.feed [])
    return .ok rest
  | some (n, .file node offset true writes appends) =>
    let octets := ((← get).files.octets? node).getD []
    setConduit n (.file node (max offset octets.length) true writes appends)
    return .ok (ofFile (octets.drop offset))
  | some (_, .directory) => return .error .isDirectory
  | some (_, _) => return .ok []
  | none => return .error .missing

/-- Puts back the last part of what has been read from a channel, where it leads to a file. -/
def unread (channel count : Nat) : Act Unit := do
  match ← conduitOf? channel with
  | some (n, .file node offset reads writes appends) =>
    setConduit n (.file node (offset - count) reads writes appends)
  | _ => pure ()

/-- What is left to be read from a channel, without reading it. -/
def peekAll (channel : Nat) : Act (Option Text) := do
  match ← conduitOf? channel with
  | some (_, .feed rest) => return some rest
  | some (_, .file node offset true _ _) =>
    return some (ofFile ((((← get).files.octets? node).getD []).drop offset))
  | some _ => return some []
  | none => return none

/-- Passes over a number of octets of a channel. -/
def skipOctets (channel count : Nat) : Act Unit := do
  match ← conduitOf? channel with
  | some (n, .feed rest) => setConduit n (.feed (rest.drop count))
  | some (n, .file node offset reads writes appends) =>
    setConduit n (.file node (offset + count) reads writes appends)
  | _ => pure ()

/-- What has been gathered at a conduit. -/
def gathered (n : Nat) : Act Text := do
  match (← get).conduits.lookup n with
  | some (.gather parts _ _) => return parts.reverse.flatten
  | _ => return []

end CommandScript.Shell
