import CommandScript.Shell.Builtin.Name
import CommandScript.Shell.Invocation
import CommandScript.Shell.Program
import CommandScript.Shell.Program.Calls
import CommandScript.Shell.Program.Edit
import CommandScript.Shell.Program.Find
import CommandScript.Shell.Program.Rules

/-!
# Launching programs

A name leads to a program by the directories of programs, or by its path. The programs of the host
are known by their names; any other file that can be run is a script, which names the program that
reads it in its first line.
-/
namespace CommandScript.Shell

/-- What is found where a program is to be run. -/
inductive Executable where
  /-- A program of the host, by its name. -/
  | stock (name : String)
  /-- A script, by the path of the program that reads it, the words between and its own path. -/
  | script (interpreter : Text) (between : List Text) (path : Text)

/-- The directories of the programs of the host. -/
def isStockDirectory (l : Location) : Bool :=
  l = ["usr".toList, "bin".toList] || l = ["bin".toList]

/-- The program that a script names in its first line, and the word after it. -/
def interpreter? (octets : Text) : Option (Text × List Text) :=
  match octets with
  | '#' :: '!' :: rest =>
    let line := trimSpaces (rest.takeWhile (· != '\n'))
    let name := line.takeWhile (!isSpace ·)
    let word := trimSpaces (line.drop name.length)
    if name.isEmpty then none else some (name, if word.isEmpty then [] else [word])
  | _ => none

/-- What is at the path of a program. -/
def executableAt (s : State) (path : Text) : Except LaunchFault Executable :=
  match s.files.locate (pathOf path), s.files.findNumber (pathOf path) with
  | .ok l, .ok n =>
    match s.files.node? n with
    | none => .error .unknown
    | some node =>
      if node.isDirectory then .error (.refused 126 FileFault.isDirectory.words)
      else if node.mode &&& 0o111 = 0 then .error (.refused 126 "Permission denied".toList)
      else if isStockDirectory l.dropLast then
        .ok (.stock (String.ofList (l.getLast?.getD [])))
      else match interpreter? (ofFile ((s.files.octets? n).getD [])) with
        | some (name, between) =>
          if isRunnable s.files name then .ok (.script name between path)
          else .error (.refused 127 "cannot execute: required file not found".toList)
        | none => .ok (.script (if s.isStandard then "/bin/sh".toList else shellPath) [] path)
  | .error .missing, _ => .error (.refused 127 FileFault.missing.words)
  | _, .error .missing => .error (.refused 127 FileFault.missing.words)
  | .error f, _ => .error (.refused 126 f.words)
  | _, .error f => .error (.refused 126 f.words)

/-- What a name leads to in directories, where a program is to be run. -/
def executableIn (s : State) (path name : Text) : Except LaunchFault Executable :=
  if name.contains '/' then executableAt s name
  else match (programPlaces path name).filter (isRunnable s.files) with
    | place :: _ => executableAt s place
    | [] => .error .unknown

/-- The name by which a shell runs a program: a path, where it remembers another one than it would
find. -/
def launchName (s : State) (name : Text) : Text :=
  match s.rememberedPath? name with
  | some path => if s.programPath name = path then name else path
  | none => name

/-- What a name leads to where a shell is to run a program. Without directories to look in, a name
is that of a file in the working directory. -/
def executable (s : State) (name : Text) : Except LaunchFault Executable :=
  let path := s.valueOf "PATH"
  if path.isEmpty ∧ !s.isStandard then executableAt s name else executableIn s path name

/-- The directories in which a program looks for others where the environment names none. -/
def barePath : Text := "/bin:/usr/bin".toList

section Launching

variable (run : Runner)

/-- A program of the host by its name, as it is called. -/
def programOf? (launch : Launch) (name : String) (called : Text) : Option Utility :=
  match name with
  | "bash" => some (runShell run .extended called)
  | "sh" => some (runShell run .standard called)
  | "dash" => some (runShell run .standard called)
  | "env" => some (changeEnvironment launch)
  | "nice" => some (runNicely launch)
  | "nohup" => some (runOn launch)
  | "setsid" => some (runApart launch)
  | "stdbuf" => some (runBuffered launch)
  | "timeout" => some (runInTime launch run)
  | "xargs" => some (runOnWords launch run)
  | "kill" => some (sendSignals run)
  | "find" => some (findFiles launch run)
  | "sed" => some (editTexts launch run)
  | "awk" => some (processRecords launch run called)
  | "mawk" => some (processRecords launch run called)
  | name => plainPrograms.lookup name

/-- Runs a program of a name in the present process, up to a depth of programs that run others. -/
def launchFrom : Nat → Launch
  | 0, _, _ => return .error .unknown
  | n + 1, name, arguments => do
    let s ← get
    match executableIn s ((s.environment.lookup "PATH".toList).getD barePath) name with
    | .error f => return .error f
    | .ok (.stock known) =>
      match programOf? run (launchFrom n) known name with
      | some utility => return .ok (← utility arguments)
      | none => return .ok 0
    | .ok (.script interpreter between path) =>
      launchFrom n interpreter (between ++ path :: arguments)

/-- The greatest depth of programs that run others. -/
def maxLaunchDepth : Nat := 100

/-- Runs a program of a name in the present process. -/
def launch : Launch := launchFrom run maxLaunchDepth

/-- The path under which a program is handed over what it is called. -/
def launchPath (s : State) (name : Text) : Text :=
  if name.contains '/' then name else s.programPath name

end Launching

end CommandScript.Shell
