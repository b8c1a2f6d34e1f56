import CommandScript.CommandLine.Program
import CommandScript.FileStore.Host
import CommandScript.Shell.Launcher

/-!
# The executable

The outer layer of the program. It takes the arguments and the environment, loads the files that
the arguments name, and the whole working directory when commands are to run in a shell, hands
everything to `CommandLine.invoke`, and carries the result out: it writes the two outputs, changes
the files that the shell has changed, and exits with the status.
-/
namespace CommandScript.Main

/-- The path of a location. -/
def pathOf (l : Location) : String := String.ofList (Path.text ⟨.top, l⟩)

/-- The location of a path, seen from a working directory. -/
def locationOf (here : Location) (path : Text) : Location :=
  let p := Path.ofText path
  p.names.foldl (fun l name ↦ if name = ['.', '.'] then l.dropLast else l ++ [name])
    (match p.root with | .here => here | _ => [])

/-- Loads what is at a location into a store: a file, or a directory, with all that is in it when
`deep` is set. Where there is nothing, nothing is loaded. -/
partial def load (deep : Bool) (s : FileStore) (l : Location) : IO FileStore := do
  match ← (IO.FS.realPath (pathOf l)).toBaseIO with
  | .error _ => return s
  | .ok found =>
    if ← found.isDir then
      let mut s := s.putDirectories l
      if deep then
        for entry in ← found.readDir do
          s ← load deep s (l ++ [entry.fileName.toList])
      return s
    else return s.putFile l (← IO.FS.readBinFile found).toList

/-- The variables of the environment that matter: those of the settings, and a few for the
shell. -/
def environment : IO (List (Text × Text)) := do
  let fields := [Settings.Field.logLevel, .logProfile, .echoLevel, .executor, .verboseLevel,
    .shellDirectory]
  let names := fields.map fun f ↦ (Settings.environmentStart ++ f.name).map Char.toUpper
  let mut found := []
  for name in names ++ ["HOME".toList, "LANG".toList, "PATH".toList] do
    if let some value ← IO.getEnv (String.ofList name) then
      found := found ++ [(name, value.toList)]
  return found

/-- The columns of the console. -/
def columns : IO Nat := do
  return (((← IO.getEnv "COLUMNS").bind String.toNat?).filter (0 < ·)).getD 80

/-- Makes the files of the host those of a store, where a shell has changed them. -/
def carryOut (before after : FileStore) : IO Unit := do
  for (l, _) in before.entries do
    if (after.number? l).isNone then
      match before.content? l with
      | some .directory => IO.FS.removeDirAll (pathOf l)
      | _ => IO.FS.removeFile (pathOf l)
  for (l, _) in after.entries.reverse do
    if before.content? l != after.content? l then
      match after.content? l with
      | some (.file octets) => IO.FS.writeBinFile (pathOf l) ⟨octets.toArray⟩
      | some .directory => IO.FS.createDirAll (pathOf l)
      | _ => pure ()

/-- The pictures that this console knows: an excerpt of a table of some thousands of names. Only this
program rests on the choice, and no property does. -/
def pictures : Console.Pictures :=
  .ofTable [("smile".toList, [Char.ofNat 0x1F604]), ("x".toList, ['\u274C']),
    ("warning".toList, ['\u26A0']), ("rocket".toList, [Char.ofNat 0x1F680])] (by decide)

/-- The texts of help: how the arguments are put. -/
def help (topic : CommandLine.HelpTopic) : Text :=
  "Usage: macroloop ".toList ++
    (match topic with
    | .program => "run|commands ...\n".toList
    | .run => "run [OPTIONS] SCRIPT\n".toList
    | .commands => "commands SCRIPT\n".toList)

/-- Runs the program and gives its exit status. -/
def execute (arguments : List String) : IO UInt32 := do
  let here := (Path.ofText (toString (← IO.currentDir)).toList).names
  let arguments := arguments.map String.toList
  let environment ← environment
  let width ← columns
  let mut files := FileStore.host here
  for path in ".env".toList :: arguments do
    unless path.contains '\x00' do
      files ← load false files (locationOf here path)
  let around (files : FileStore) : CommandLine.Surroundings Shell.Host :=
    ⟨files, environment, width, pictures, help, Shell.launcher, ⟨files, environment⟩⟩
  if CommandLine.usesShell (around files) arguments then
    files ← load true files here
  let result := CommandLine.invoke (around files) arguments
  IO.print (String.ofList result.out)
  IO.eprint (String.ofList result.err)
  let (message, status) := CommandLine.closing result.ending
  if let some message := message then
    IO.eprintln (String.ofList message)
  carryOut files result.host.files
  return status.toUInt32

end CommandScript.Main

/-- Runs the program for its arguments. -/
def main (arguments : List String) : IO UInt32 := CommandScript.Main.execute arguments
