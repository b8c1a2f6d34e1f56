import CommandScript.Shell.Builtin.Echo
import CommandScript.Shell.Builtin.Job
import CommandScript.Shell.Program.Character
import CommandScript.Shell.Program.Clock
import CommandScript.Shell.Program.Compare
import CommandScript.Shell.Program.Count
import CommandScript.Shell.Program.Digest
import CommandScript.Shell.Program.Encoding
import CommandScript.Shell.Program.Launch
import CommandScript.Shell.Program.Listing
import CommandScript.Shell.Program.Merge
import CommandScript.Shell.Program.Number
import CommandScript.Shell.Program.Order
import CommandScript.Shell.Program.Paragraph
import CommandScript.Shell.Program.Part
import CommandScript.Shell.Program.Place
import CommandScript.Shell.Program.Search
import CommandScript.Shell.Program.System
import CommandScript.Shell.Program.Tree
import CommandScript.Shell.Program.Whole
import CommandScript.Shell.Test

/-!
# The programs by name
-/
namespace CommandScript.Shell

/-- The program `sleep`, during which the jobs of a shell run. -/
def sleepFor : Utility :=
  let form : OptionForm := { name := "sleep" }
  fun arguments ↦ form.choose arguments fun c ↦ do
    if c.others.isEmpty then form.misuse "missing operand".toList
    else match c.others.find? fun t ↦ (microseconds? t).isNone with
      | some t => form.misuse ("invalid time interval ".toList ++ curled t)
      | none =>
        passTime (sumOf (c.others.filterMap microseconds?))
        return 0

/-- A command of the shell as a program, which is the same in every language. -/
def asProgram (utility : Utility) : Utility := fun arguments ↦ do
  modify fun s ↦ { s with dialect := .extended, features := usualFeatures }
  utility arguments

/-- The programs that need nothing but their arguments. -/
def plainPrograms : List (String × Utility) := [
  ("true", fun _ ↦ return 0), ("false", fun _ ↦ return 1), ("echo", asProgram echo),
  ("printf", asProgram writeFormatted), ("test", asProgram (testAs "test" none)),
  ("[", asProgram testBracket), ("pwd", writeDirectory),
  ("arch", writeAlways "arch" "x86_64"), ("date", writeMoment), ("groups", writeGroups),
  ("hostname", writeMachine), ("id", writeUser), ("nproc", writeProcessors), ("sync", storeFiles),
  ("tty", writeTerminal), ("uname", writeSystem), ("whoami", writeAlways "whoami" "root"),
  ("yes", writeAgain), ("printenv", printEnvironment), ("sleep", sleepFor),
  ("base64", writeLetters), ("basename", writeLastName), ("cat", copyTexts),
  ("chmod", changePermissions),
  ("cksum", writeCheckSums), ("cmp", compareFiles), ("comm", compareLines), ("cp", copyFiles),
  ("cut", writeColumns), ("diff", diffFiles), ("dirname", writeUpperPath), ("du", tellRoom),
  ("expand", tabsToBlanks), ("expr", evaluateWords), ("factor", writeFactors), ("fmt", fillTexts),
  ("fold", foldLines), ("egrep", searchLines .extended), ("fgrep", searchLines .fixed),
  ("grep", searchLines .basic), ("head", writeStart), ("join", joinLines), ("ln", linkFiles),
  ("ls", listFiles), ("md5sum", writeDigests "md5sum" "MD5" digest128), ("mkdir", makeDirectories),
  ("mktemp", makeTemporary), ("mv", moveFiles), ("nl", numberLines), ("numfmt", writeSizes),
  ("od", showOctets), ("paste", pasteLines), ("readlink", writeTarget),
  ("realpath", writeRealPath), ("rev", copyTurned), ("rm", removeFiles),
  ("rmdir", removeDirectories), ("seq", writeRow),
  ("sha1sum", writeDigests "sha1sum" "SHA1" digest160),
  ("sha256sum", writeDigests "sha256sum" "SHA256" digest256), ("shuf", drawLines),
  ("sort", sortLines), ("split", writePieces), ("stat", tellFacts), ("tac", copyBackwards),
  ("tail", writeRest), ("tee", copyToFiles), ("touch", touchFiles), ("tr", changeCharacters),
  ("truncate", resizeFiles), ("tsort", sortRelated), ("unexpand", blanksToTabs),
  ("uniq", writeOnce), ("unlink", removeName), ("wc", countTexts), ("which", writeProgramPlaces)]

end CommandScript.Shell
