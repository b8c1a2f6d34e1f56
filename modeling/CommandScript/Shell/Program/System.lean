import CommandScript.Shell.Program.Basic

/-!
# Programs that tell about the system

The names of the system, of the machine and of the user, and what the input is. Two programs stand
beside them that take no part in anything: one writes a line again and again, and one sees to it
that files are stored, which they always are.
-/
namespace CommandScript.Shell

/-- Goes on with a program that takes no arguments but options. -/
def OptionForm.withoutOperands (form : OptionForm) (arguments : List Text)
    (act : Choices → Act Nat) : Act Nat :=
  form.choose arguments fun c ↦
    match c.others with
    | t :: _ => form.misuse ("extra operand ".toList ++ curled t)
    | [] => act c

/-- A program that writes one line. -/
def writeAlways (name line : String) : Utility := fun arguments ↦
  let form : OptionForm := { name }
  form.withoutOperands arguments fun _ ↦ do
    putLine line.toList
    return 0

/-- The name of the machine. -/
def machineName : String := "localhost"

/-- What the letters of `uname` stand for, in order. -/
def systemFacts : List (Char × String) := [
  ('s', "Linux"), ('n', machineName), ('r', "6.1.0"), ('v', "#1 SMP"), ('m', "x86_64"),
  ('p', "x86_64"), ('i', "x86_64"), ('o', "GNU/Linux")]

/-- The program `uname`. -/
def writeSystem : Utility :=
  let form : OptionForm := {
    name := "uname", plain := "asnrvmpio"
    long := [("all", 'a'), ("kernel-name", 's'), ("sysname", 's'), ("nodename", 'n'),
      ("kernel-release", 'r'), ("release", 'r'), ("kernel-version", 'v'), ("machine", 'm'),
      ("processor", 'p'), ("hardware-platform", 'i'), ("operating-system", 'o')] }
  fun arguments ↦ form.withoutOperands arguments fun c ↦ do
    let chosen := if c.given.isEmpty then systemFacts.take 1
      else systemFacts.filter fun e ↦ c.has 'a' || c.has e.1
    putLine ([' '].intercalate (chosen.map (·.2.toList)))
    return 0

/-- The program `id`. -/
def writeUser : Utility :=
  let form : OptionForm := {
    name := "id", plain := "agGnruz"
    long := [("group", 'g'), ("groups", 'G'), ("name", 'n'), ("real", 'r'), ("user", 'u'),
      ("zero", 'z')] }
  fun arguments ↦ form.choose arguments fun c ↦ do
    let chosen := (c.given.map Prod.fst).filter fun l ↦ "ugG".toList.contains l
    if 1 < chosen.eraseDups.length then
      return ← failOf "id" 1 "cannot print \"only\" of more than one choice".toList
    if chosen.isEmpty ∧ (c.has 'n' ∨ c.has 'r') then
      return ← failOf "id" 1 "cannot print only names or real IDs in default format".toList
    if chosen.isEmpty ∧ c.has 'z' then
      return ← failOf "id" 1 "option --zero not permitted in default format".toList
    let mut status := 0
    for name in if c.others.isEmpty then ["root".toList] else c.others do
      if name != "root".toList ∧ name != ['0'] then
        tellOf "id" (curled name ++ ": no such user".toList)
        status := 1
      else
        let t := if chosen.isEmpty then "uid=0(root) gid=0(root) groups=0(root)".toList
          else if c.has 'n' then "root".toList else ['0']
        put (t ++ [if c.has 'z' then '\x00' else '\n'])
    return status

/-- The program `groups`. -/
def writeGroups : Utility :=
  let form : OptionForm := { name := "groups" }
  fun arguments ↦ form.choose arguments fun c ↦ do
    let mut status := 0
    if c.others.isEmpty then putLine "root".toList
    for name in c.others do
      if name = "root".toList then putLine "root : root".toList
      else
        tellOf "groups" (curled name ++ ": no such user".toList)
        status := 1
    return status

/-- The program `hostname`. -/
def writeMachine : Utility :=
  let form : OptionForm := {
    name := "hostname", plain := "sfdiIaA"
    long := [("short", 's'), ("fqdn", 'f'), ("long", 'f'), ("domain", 'd')] }
  fun arguments ↦ form.choose arguments fun c ↦ do
    if c.others.isEmpty then
      putLine (if c.has 'd' then [] else machineName.toList)
      return 0
    else failOf "hostname" 1 "you must be root to change the host name".toList

/-- The program `tty`. The input is never a terminal. -/
def writeTerminal : Utility :=
  let form : OptionForm := {
    name := "tty", plain := "s", long := [("silent", 's'), ("quiet", 's')], failure := 2 }
  fun arguments ↦ form.withoutOperands arguments fun c ↦ do
    if !c.has 's' then putLine "not a tty".toList
    return 1

/-- The program `nproc`. -/
def writeProcessors : Utility :=
  let form : OptionForm := {
    name := "nproc", valued := "\x01", long := [("all", 'a'), ("ignore", '\x01')] }
  fun arguments ↦ form.withoutOperands arguments fun c ↦ do
    match c.value? '\x01' with
    | some t =>
      if (naturalNumber? t).isNone then
        return ← failOf "nproc" 1 ("invalid number: ".toList ++ curled t)
    | none => pure ()
    putLine ['1']
    return 0

/-- The program `sync`. -/
def storeFiles : Utility :=
  let form : OptionForm := {
    name := "sync", plain := "df", long := [("data", 'd'), ("file-system", 'f')] }
  fun arguments ↦ form.choose arguments fun c ↦ do
    let mut status := 0
    for name in c.others do
      match (← get).files.findNumber (pathOf name) with
      | .ok _ => pure ()
      | .error f =>
        tellOf "sync" ("error opening ".toList ++ quotedName name ++ ": ".toList ++ f.words)
        status := 1
    return status

/-- Writes a text a number of times, or until that is stopped. -/
def putTimes (t : Text) : Nat → Act Unit
  | 0 => return
  | n + 1 => do
    put t
    putTimes t n

/-- How many octets are written at once by what writes without end. -/
def chunkSize : Nat := 8192

/-- The program `yes`. What reads its output stops it. -/
def writeAgain : Utility :=
  let form : OptionForm := { name := "yes" }
  fun arguments ↦ form.choose arguments fun c ↦ do
    let line := (if c.others.isEmpty then ['y'] else [' '].intercalate c.others) ++ ['\n']
    let chunk := (List.replicate (chunkSize / line.length + 1) line).flatten
    putTimes chunk (pipeCapacity / chunkSize + 2)
    return 0

end CommandScript.Shell
