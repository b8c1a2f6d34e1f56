import CommandScript.Shell.Program.EditScript
import CommandScript.Shell.Program.Launch

/-!
# Editing lines

The program `sed` does the commands of a script for every line of its inputs. What it works on is
the line under way and another text that is kept beside it; both remember whether their line was
ended in the input, and a line that was not ended is written without an end as long as nothing comes
after it. Texts that are to come after the line wait until the next line is read or the commands
end.

A command is one step, which says where the run goes on. The run over all lines has a bound on the
number of its steps.
-/
namespace CommandScript.Shell

/-! ### State -/

/-- A line that is worked on. -/
structure EditLine where
  /-- Its characters. -/
  text : Text := []
  /-- Whether it has been ended in the input. -/
  ended : Bool := true
  deriving DecidableEq, Repr

/-- What waits until the commands for a line are done. -/
inductive EditAddition where
  /-- A text. -/
  | text (t : Text)
  /-- All of a file. -/
  | file (name : Text)
  deriving DecidableEq, Repr

/-- An input that is left to be edited. -/
structure EditInput where
  /-- The name of the file. -/
  name : Text
  /-- Its lines, and whether each is ended. -/
  lines : List (Text × Bool)
  /-- Why it cannot be edited, if so, and whether the run goes on then. -/
  fault : Option (Text × Bool) := none
  deriving DecidableEq, Repr

/-- A place to which lines are written. -/
structure EditSink where
  /-- What has been written, the latest first. -/
  parts : List Text := []
  /-- Whether the end of the last line is still due. -/
  lacksEnd : Bool := false
  deriving DecidableEq, Repr

/-- How far a range of lines has come. -/
inductive EditRange where
  /-- It goes up to a line. -/
  | upTo (n : Nat)
  /-- It goes on until its end is found. -/
  | underWay
  /-- It is over and does not start again. -/
  | over
  deriving DecidableEq, Repr

/-- How lines are edited. -/
structure EditMode where
  /-- The script. -/
  script : EditScript
  /-- Whether lines are written only where that is asked for. -/
  isQuiet : Bool
  /-- What ends a line. -/
  ending : Char
  /-- Whether every file is edited for itself. -/
  isApart : Bool
  /-- Where the files themselves are changed, what their old texts are kept under. -/
  inPlace : Option Text
  /-- How wide a row is that shows a line. -/
  width : Nat
  /-- The words before a fault that is found when the commands are done. -/
  voice : Text

/-- The **state** of a run. -/
structure EditRun where
  /-- The line under way. -/
  space : EditLine := {}
  /-- What is kept beside it. -/
  kept : EditLine := {}
  /-- The number of the line. -/
  number : Nat := 0
  /-- Whether something has been replaced since the line was read. -/
  replaced : Bool := false
  /-- The ranges that have started, by the numbers of their commands. -/
  ranges : List (Nat × EditRange)
  /-- What is to come after the line, the latest first. -/
  additions : List EditAddition := []
  /-- What has been looked for last. -/
  last : Option Expression := none
  /-- The input under way. -/
  current : EditInput
  /-- The inputs after it. -/
  later : List EditInput
  /-- The places to which lines are written, by their names. -/
  sinks : List (Text × EditSink) := []
  /-- The lines that are left of files that are read line by line. -/
  sources : List (Text × List Text) := []
  /-- The status with which the run ends of itself. -/
  status : Nat := 0

/-- A computation of a run. -/
abbrev EditM := StateT EditRun Act

/-- Where a run goes on after a command. -/
inductive EditFlow where
  /-- With the next command. -/
  | next
  /-- With the command of a number. -/
  | command (n : Nat)
  /-- With the next line. -/
  | newLine
  /-- With the first command for the same line. -/
  | again
  /-- Nowhere: the run ends with a status. -/
  | quit (status : Nat)
  deriving DecidableEq, Repr

/-- The ranges that are under way before any line: those that start at no line. -/
def EditScript.openRanges (s : EditScript) : List (Nat × EditRange) :=
  s.commands.toList.zipIdx.filterMap fun (c, i) ↦
    if c.place.first = some (.line 0) then some (i, .underWay) else none

/-- The files to which a script writes. -/
def EditScript.targets (s : EditScript) : List Text :=
  s.commands.toList.filterMap fun c ↦ match c.action with
    | .write name => some name
    | .writeFirst name => some name
    | .substitute s => s.target
    | _ => none

namespace EditM

section Running

variable (m : EditMode)

/-! ### Output -/

/-- The name of the output. -/
def outputName : Text := "/dev/stdout".toList

/-- The name of the error output. -/
def errorName : Text := "/dev/stderr".toList

/-- The name of the place where lines go of themselves: the output, or the new text of the file
under way, which has none. -/
def usualName : Text := if m.inPlace.isSome then [] else outputName

/-- Writes a text to a place. The end of the line before it comes first, if it is due. -/
def emit (name t : Text) (lacksEnd : Bool) : EditM Unit := modify fun r ↦
  let sink := (r.sinks.lookup name).getD {}
  let parts := if sink.lacksEnd then [m.ending] :: sink.parts else sink.parts
  let others := r.sinks.filter fun (e : Text × EditSink) ↦ e.1 != name
  { r with sinks := (name, ⟨t :: parts, lacksEnd⟩) :: others }

/-- Writes a text to where lines go. -/
def say (t : Text) : EditM Unit := emit m (usualName m) t false

/-- Writes a line to a place. -/
def emitLine (name : Text) (line : EditLine) : EditM Unit :=
  emit m name (narrow line.text ++ if line.ended then [m.ending] else []) (!line.ended)

/-- Writes the line under way to where lines go. -/
def sayLine : EditM Unit := do emitLine m (usualName m) (← get).space

/-- A line up to its first line end, and what follows, if there is one. -/
def firstPart (line : EditLine) : EditLine × Option Text :=
  let first := line.text.takeWhile (· != m.ending)
  if first.length = line.text.length then (line, none)
  else (⟨first, true⟩, some (line.text.drop (first.length + 1)))

/-- Hands over what has been written. What is written to the file under way stays until its end. -/
def handOver : EditM Unit := do
  let r ← get
  for (name, sink) in r.sinks do
    let t := sink.parts.reverse.flatten
    if name = outputName then put t
    else if name = errorName then tell t
    else if !name.isEmpty then
      let _ ← writeFile .appending name t
  let kept (e : Text × EditSink) : Text × EditSink :=
    if e.1.isEmpty then e else (e.1, { e.2 with parts := [] })
  set { r with sinks := r.sinks.map kept }

/-- Writes what has been waiting for the end of the commands. -/
def flushAdditions : EditM Unit := do
  let r ← get
  if r.additions.isEmpty then return
  set { r with additions := [] }
  for a in r.additions.reverse do
    match a with
    | .text t => say m t
    | .file name =>
      handOver
      match ← readFile name with
      | .ok t => if !t.isEmpty then say m t
      | .error _ => pure ()

/-! ### Input -/

/-- Whether no line follows. Where every file is edited for itself, its last line is enough. -/
def isLast : EditM Bool := do
  let r ← get
  return r.current.lines.isEmpty && (m.isApart || r.later.all (·.lines.isEmpty))

/-- Puts what has been written in the place of the file under way. -/
def replaceFile (suffix : Text) : EditM Unit := do
  let r ← get
  let name := r.current.name
  let t := (((r.sinks.lookup []).getD {}).parts.reverse).flatten
  let s : State ← getThe State
  match s.files.locate (pathOf name) false, s.files.findNumber (pathOf name) with
  | .ok l, .ok n =>
    let mode := ((s.files.node? n).map (·.mode)).getD FileStore.fileMode
    let base := (name.reverse.takeWhile (· != '/')).reverse
    let files := if suffix.isEmpty then s.files else
      let backup := if suffix.contains '*' then
          suffix.flatMap fun c ↦ if c = '*' then base else [c]
        else base ++ suffix
      let path := if backup.contains '/' then backup
        else name.take (name.length - base.length) ++ backup
      match s.files.locate (pathOf path) false with
      | .ok l' => s.files.link l' n
      | .error _ => s.files
    modifyThe State fun s ↦ { s with files := files.put l (.file (ofOctets t)) mode }
  | _, _ => pure ()
  set { r with sinks := r.sinks.filter fun e ↦ !e.1.isEmpty }

/-- Ends the input under way. -/
def finishInput : EditM Unit := do
  match m.inPlace, (← get).current.fault with
  | some suffix, none => replaceFile suffix
  | _, _ => pure ()

/-- Stops with a status and words for what is wrong. -/
def stop {α : Type} (status : Nat) (words : Text) : EditM α := do
  tellOf "sed" words
  handOver
  modifyThe State fun s ↦ { s with status := status }
  throwThe Leave .exits

/-- Goes on with the inputs up to one that has lines, and takes its first line. -/
def takeFrom : List EditInput → EditM (Option (Text × Bool))
  | [] => return none
  | input :: later => do
    finishInput m
    modify fun r ↦
      let r := { r with current := input, later := later }
      if m.isApart then
        { r with number := 0, ranges := m.script.openRanges, sources := [], kept := {} }
      else r
    match input.fault with
    | some (words, true) =>
      tellOf "sed" words
      modify fun r ↦ { r with status := 2 }
    | some (words, false) => stop 4 words
    | none => pure ()
    match input.lines with
    | line :: lines =>
      modify fun r ↦ { r with current := { input with lines } }
      return some line
    | [] => takeFrom later

/-- Reads the next line, and gives whether there is one. It comes in the place of the line under way
or behind it. -/
def readNext (behind : Bool) : EditM Bool := do
  flushAdditions m
  let r ← get
  let found ← match r.current.lines with
    | line :: lines =>
      set { r with current := { r.current with lines } }
      pure (some line)
    | [] => takeFrom m r.later
  match found with
  | none => return false
  | some (t, ended) =>
    modify fun r ↦
      let t := wide t
      { r with
        number := r.number + 1
        replaced := false
        space := ⟨if behind then r.space.text ++ m.ending :: t else t, ended⟩ }
    return true

/-! ### Addresses -/

/-- The expression to look for, where none stands for the last one. -/
def wantedOf (e : Option Expression) : EditM Expression := do
  match e, (← get).last with
  | some e, _ =>
    modify fun r ↦ { r with last := some e }
    return e
  | none, some e => return e
  | none, none => stop 1 (m.voice ++ "no previous regular expression".toList)

/-- Whether the line under way is at an address. -/
def isAt : EditAddress → EditM Bool
  | .line n => return (← get).number = n
  | .every first step => do
    let n := (← get).number
    return first ≤ n && (n - first) % step = 0
  | .last => isLast m
  | .found e => do
    let e ← wantedOf m e
    return e.occurs (← get).space.text

/-- How far a range goes that starts with the line under way. -/
def rangeFrom (n : Nat) : EditEnd → EditM EditRange
  | .at (.line k) => return .upTo k
  | .at (.found _) => return .underWay
  | .at a => do return if ← isAt m a then .upTo n else .underWay
  | .after k => return .upTo (n + k)
  | .multiple k => return .upTo (if k = 0 then n else (n / k + 1) * k)

/-- Whether a range starts with the line under way. One that starts at a line does so at a later one
too, if that has been passed over, but not behind its end. -/
def startsHere (first : EditAddress) (finish : EditEnd) : EditM Bool := do
  let n := (← get).number
  match first, finish with
  | .line k, .at (.line k') => return k = n || (k ≤ n && n ≤ k')
  | .line k, _ => return k ≤ n
  | first, _ => isAt m first

/-- Whether the line under way is in a range, which may start or end with it. Where the end of a
range has been passed over, the first line behind it still belongs to it, unless the end is given as
the number of a line. -/
def isWithin (i : Nat) (first : EditAddress) (finish : EditEnd) : EditM Bool := do
  let r ← get
  let become (range : Option EditRange) : EditM Unit := modify fun r ↦
    let others := r.ranges.filter fun (e : Nat × EditRange) ↦ e.1 != i
    { r with ranges := (range.map fun g ↦ (i, g)).toList ++ others }
  let close : EditM Unit := become (match first with
    | .line _ => some .over
    | _ => none)
  match r.ranges.lookup i, finish with
  | some .over, _ => return false
  | some (.upTo n), _ =>
    if n ≤ r.number then close
    return r.number ≤ n || !(finish matches .at _)
  | some .underWay, .at a =>
    if ← isAt m a then close
    return true
  | some .underWay, _ => return true
  | none, _ =>
    if !(← startsHere m first finish) then return false
    match ← rangeFrom m r.number finish with
    | .upTo n => if r.number < n then become (some (.upTo n)) else close
    | range => become (some range)
    return true

/-- Whether a command is done for the line under way. -/
def isChosen (i : Nat) (p : EditPlace) : EditM Bool := do
  let found ← match p.first, p.finish with
    | none, _ => pure true
    | some a, none => isAt m a
    | some a, some finish => isWithin m i a finish
  return found != p.inverted

/-! ### Substitution -/

/-- A letter after a turn. -/
def turned : Option LetterTurn → Char → Char
  | some .upper, c => capitalOf c
  | some .nextUpper, c => capitalOf c
  | some .lower, c => smallOf c
  | some .nextLower, c => smallOf c
  | _, c => c

/-- A text of a replacement after turns: one that lasts, and one for the next letter. -/
def turnedText (lasting once : Option LetterTurn) : Text → Text
  | [] => []
  | c :: rest => turned (once.or lasting) c :: rest.map (turned lasting)

/-- What a replacement makes of a match. A turn for the next letter waits for one, but not beyond
another turn. -/
def replacement (groups : List Text) : Option LetterTurn → Option LetterTurn → List EditPiece → Text
  | _, _, [] => []
  | lasting, once, .letter c :: rest =>
    turned (once.or lasting) c :: replacement groups lasting none rest
  | lasting, once, .group n :: rest =>
    let t := groups.getD n []
    turnedText lasting once t ++ replacement groups lasting (if t.isEmpty then once else none) rest
  | lasting, _, .turn .nextUpper :: rest => replacement groups lasting (some .nextUpper) rest
  | lasting, _, .turn .nextLower :: rest => replacement groups lasting (some .nextLower) rest
  | _, _, .turn .stop :: rest => replacement groups none none rest
  | _, _, .turn t :: rest => replacement groups (some t) none rest

/-- A line with some matches replaced, from a place on. -/
def replaceMatches (t : Array Char) (count : Nat) (pieces : List EditPiece) :
    Nat → List Expression.Match → Text
  | i, [] => (t.extract i t.size).toList
  | i, f :: rest =>
    (t.extract i f.span.1).toList ++ replacement (f.texts t count) none none pieces ++
      replaceMatches t count pieces f.span.2 rest

/-- A line after a substitution, if there is anything to replace. -/
def substituted? (s : Substitution) (e : Expression) (line : Text) : Option Text :=
  let t := line.toArray
  let found := if s.start = 1 ∧ !s.every then (e.find? t 0).toList
    else
      let found := (e.everyMatch t).drop (s.start - 1)
      if s.every then found else found.take 1
  if found.isEmpty then none else some (replaceMatches t e.groupCount s.pieces 0 found)

/-! ### Showing -/

/-- The letters of the characters that are shown by a backslash and a letter. -/
def shownLetters : List (Char × Char) := [
  ('\\', '\\'), ('\x07', 'a'), ('\x08', 'b'), ('\x0C', 'f'), ('\n', 'n'), ('\r', 'r'), ('\t', 't'),
  ('\x0B', 'v')]

/-- An octet as it is shown. -/
def shownOctet (c : Char) : Text :=
  match shownLetters.lookup c with
  | some letter => ['\\', letter]
  | none =>
    if ' ' ≤ c ∧ c ≤ '~' then [c]
    else
      let digits := digitsIn 8 c.toNat
      '\\' :: List.replicate (3 - digits.length) '0' ++ digits

/-- Signs in rows of a width, of which each but the last ends in a backslash. -/
def inRows (width : Nat) : Nat → List Text → Text
  | _, [] => "$\n".toList
  | column, sign :: rest =>
    if 0 < width ∧ width - 1 < column + sign.length then
      "\\\n".toList ++ sign ++ inRows width sign.length rest
    else sign ++ inRows width (column + sign.length) rest

/-! ### Commands -/

section Commands

variable (launch : Launch) (run : Runner)

/-- The output of a command line. What has been written before is handed over first. -/
def outputOf (line : Text) : EditM Text := do
  handOver
  let (t, _) ← commandOutput launch run "sh" line
  return t

/-- Changes the line under way. -/
def setText (t : Text) : EditM Unit := modify fun r ↦ { r with space := { r.space with text := t } }

/-- Reads the next line of a file that is read line by line. -/
def nextOf (name : Text) : EditM (Option Text) := do
  let lines ← match (← get).sources.lookup name with
    | some lines => pure lines
    | none =>
      handOver
      match ← readFile name with
      | .ok t => pure (wholeLines m.ending t)
      | .error _ => pure []
  modify fun r ↦ { r with sources := (name, lines.drop 1) :: r.sources.filter fun e ↦ e.1 != name }
  return lines.head?

/-- Makes a substitution. -/
def substitute (s : Substitution) : EditM Unit := do
  let e ← wantedOf m s.wanted
  match substituted? s e (← get).space.text with
  | none => return
  | some t =>
    modify fun r ↦ { r with replaced := true }
    setText t
    if s.runs then
      let t ← outputOf launch run (narrow t)
      setText (wide (if t.getLast? = some m.ending then t.dropLast else t))
    if s.prints then sayLine m
    match s.target with
    | some name => emitLine m name (← get).space
    | none => pure ()

/-- Reads the next line, where there is one. Where there is none, the line under way is written and
the commands for it end. -/
def goOnReading (behind : Bool) : EditM EditFlow := do
  if ← isLast m then
    if !m.isQuiet then sayLine m
    return .newLine
  if !behind ∧ !m.isQuiet then sayLine m
  return if ← readNext m behind then .next else .newLine

/-- Does what a command does. -/
def perform (i : Nat) (action : EditAction) : EditM EditFlow := do
  let r ← get
  let add (a : EditAddition) : EditM Unit := modify fun r ↦ { r with additions := a :: r.additions }
  let jump (goes : Bool) (name : Text) : EditM EditFlow := do
    let target := (m.script.labelAt? name).getD m.script.commands.size
    return if goes then .command target else .next
  match action with
  | .opening _ => return .next
  | .closing => return .next
  | .label _ => return .next
  | .nothing => return .next
  | .number => say m (shown r.number ++ ['\n']); return .next
  | .append t => add (.text t); return .next
  | .insert t => say m t; return .next
  | .change t =>
    if (r.ranges.lookup i).all (· = .over) then say m t
    return .newLine
  | .jump .always name => jump true name
  | .jump .replaced name =>
    set { r with replaced := false }
    jump r.replaced name
  | .jump .unreplaced name =>
    set { r with replaced := false }
    jump (!r.replaced) name
  | .delete => return .newLine
  | .deleteFirst =>
    match (firstPart m r.space).2 with
    | none => return .newLine
    | some t => setText t; return .again
  | .run none =>
    let t ← outputOf launch run (narrow r.space.text)
    setText (wide (if t.getLast? = some m.ending then t.dropLast else t))
    return .next
  | .run (some line) =>
    let t ← outputOf launch run line
    if !t.isEmpty then say m t
    return .next
  | .fileName => say m (r.current.name ++ ['\n']); return .next
  | .take => set { r with space := r.kept }; return .next
  | .takeBehind =>
    set { r with space := { r.kept with text := r.space.text ++ m.ending :: r.kept.text } }
    return .next
  | .keep => set { r with kept := r.space }; return .next
  | .keepBehind =>
    set { r with kept := { r.space with text := r.kept.text ++ m.ending :: r.space.text } }
    return .next
  | .exchange => set { r with space := r.kept, kept := r.space }; return .next
  | .list width =>
    say m (inRows (width.getD m.width) 0 ((narrow r.space.text).map shownOctet))
    return .next
  | .next => goOnReading m false
  | .nextBehind => goOnReading m true
  | .print => sayLine m; return .next
  | .printFirst => emitLine m (usualName m) (firstPart m r.space).1; return .next
  | .quit status writes =>
    if writes then
      if !m.isQuiet then sayLine m
      say m []
      flushAdditions m
    return .quit status
  | .read name => add (.file name); return .next
  | .readLine name =>
    match ← nextOf m name with
    | some t => add (.text t)
    | none => pure ()
    return .next
  | .substitute s => substitute m launch run s; return .next
  | .write name => emitLine m name r.space; return .next
  | .writeFirst name => emitLine m name (firstPart m r.space).1; return .next
  | .exchangeLetters pairs =>
    setText (r.space.text.map fun c ↦ (pairs.lookup c).getD c)
    return .next
  | .clear => setText []; return .next

/-- One step: the command of a number is done if it is chosen. Behind the last one, the line is
written. -/
def step (i : Nat) : EditM EditFlow := do
  match m.script.commands[i]? with
  | none =>
    if !m.isQuiet then sayLine m
    return .newLine
  | some c =>
    match ← isChosen m i c.place, c.action with
    | true, action => perform m launch run i action
    | false, .opening finish => return .command finish
    | false, _ => return .next

/-- Goes on from a command to the end of all lines, and gives the status, in a number of steps. -/
def goOn : Nat → Nat → EditM Nat
  | 0, _ => return 0
  | n + 1, i => do
    match ← step m launch run i with
    | .next => goOn n (i + 1)
    | .command j => goOn n j
    | .again => goOn n 0
    | .newLine => if ← readNext m false then goOn n 0 else return (← get).status
    | .quit status =>
      let r ← get
      let left := (r.current :: r.later).find? fun input ↦ input.name = ['-']
      match left with
      | some input =>
        let size (line : Text × Bool) : Nat := line.1.length + if line.2 then 1 else 0
        unread 0 (sumOf (input.lines.map size))
      | none => pure ()
      return status

/-- The greatest number of steps. -/
def maxSteps : Nat := 10000000

/-- Edits all lines, and gives the status. -/
def edit : EditM Nat := do
  let status ← if ← readNext m false then goOn m launch run maxSteps 0
    else pure (← get).status
  finishInput m
  handOver
  return status

end Commands

end Running

end EditM

/-! ### The program -/

/-- What is said where the use is wrong. -/
def editUsage : Text := ofLines ([
  "Usage: sed [OPTION]... \x7bscript-only-if-no-other-script\x7d [input-file]...",
  "",
  "  -n, --quiet, --silent",
  "                 suppress automatic printing of pattern space",
  "      --debug",
  "                 annotate program execution",
  "  -e script, --expression=script",
  "                 add the script to the commands to be executed",
  "  -f script-file, --file=script-file",
  "                 add the contents of script-file to the commands to be executed",
  "  --follow-symlinks",
  "                 follow symlinks when processing in place",
  "  -i[SUFFIX], --in-place[=SUFFIX]",
  "                 edit files in place (makes backup if SUFFIX supplied)",
  "  -l N, --line-length=N",
  "                 specify the desired line-wrap length for the \x60l' command",
  "  --posix",
  "                 disable all GNU extensions.",
  "  -E, -r, --regexp-extended",
  "                 use extended regular expressions in the script",
  "                 (for portability use POSIX -E).",
  "  -s, --separate",
  "                 consider files as separate rather than as a single,",
  "                 continuous long stream.",
  "      --sandbox",
  "                 operate in sandbox mode (disable e/r/w commands).",
  "  -u, --unbuffered",
  "                 load minimal amounts of data from the input files and flush",
  "                 the output buffers more often",
  "  -z, --null-data",
  "                 separate lines by NUL characters",
  "      --help     display this help and exit",
  "      --version  output version information and exit",
  "",
  "If no -e, --expression, -f, or --file option is given, then the first",
  "non-option argument is taken as the sed script to interpret.  All",
  "remaining arguments are names of input files; if no input files are",
  "specified, then the standard input is read.",
  ""].map String.toList)

/-- The options of `sed`. -/
def editForm : OptionForm := {
  name := "sed", plain := "nrEszub", valued := "efl", optional := "i"
  long := [("quiet", 'n'), ("silent", 'n'), ("regexp-extended", 'E'), ("separate", 's'),
    ("null-data", 'z'), ("zero-terminated", 'z'), ("unbuffered", 'u'), ("binary", 'b'),
    ("expression", 'e'), ("file", 'f'), ("line-length", 'l'), ("in-place", 'i'),
    ("follow-symlinks", 'b'), ("posix", 'b'), ("debug", 'b'), ("sandbox", 'b')] }

/-- The sources of a script, each with the file that it comes from if it is one; or the words for a
file that cannot be read. -/
def scriptSources : List (Char × Option Text) → Act (Except Text (List (Text × Option Text)))
  | [] => return .ok []
  | ('e', some t) :: rest => do return (← scriptSources rest).map ((t, none) :: ·)
  | ('f', some name) :: rest => do
    let source ← readInput name
    match source with
    | .error .isDirectory => scriptSources rest
    | .error f => return .error ("couldn't open file ".toList ++ name ++ ": ".toList ++ f.words)
    | .ok t =>
      let t := if t.getLast? = some '\n' then t.dropLast else t
      return (← scriptSources rest).map ((t, some name) :: ·)
  | _ :: rest => scriptSources rest

/-- The words for a fault of a script, and the status. -/
def EditFault.told (sources : List (Text × Option Text)) : EditFault → Text × Nat
  | .whole words => (words, 4)
  | .wrong source read line words =>
    match (sources[source - 1]?).bind Prod.snd with
    | some name =>
      ("file ".toList ++ name ++ " line ".toList ++ shown line ++ ": ".toList ++ words, 1)
    | none =>
      let n := ((sources.take source).filter fun e ↦ e.2.isNone).length
      ("-e expression #".toList ++ shown n ++ ", char ".toList ++ shown read ++
        ": ".toList ++ words, 1)

/-- The input of a name. -/
def editInput (ending : Char) (inPlace : Bool) (name : Text) : Act EditInput := do
  let s ← get
  let node := (s.files.findNumber (pathOf name)).toOption.bind s.files.node?
  if inPlace ∧ node.any fun node ↦ !node.isFile then
    let words := "couldn't edit ".toList ++ name ++ ": not a regular file".toList
    return ⟨name, [], some (words, false)⟩
  match ← if inPlace then readFile name else readInput name with
  | .error .isDirectory =>
    return ⟨name, [], some ("read error on ".toList ++ name ++ ": ".toList ++
      FileFault.isDirectory.words, false)⟩
  | .error f =>
    return ⟨name, [], some ("can't read ".toList ++ name ++ ": ".toList ++ f.words, true)⟩
  | .ok t =>
    let (lines, isEnded) := splitLines ending t
    let count := lines.length
    return ⟨name, lines.zipIdx.map fun (line, i) ↦ (line, isEnded || i + 1 < count), none⟩

/-- The program `sed`. -/
def editTexts (launch : Launch) (run : Runner) : Utility := fun arguments ↦ do
  match editForm.read (arguments.length + 1) arguments with
  | .error message =>
    tellOf "sed" message
    tell editUsage
    return 1
  | .ok c =>
    let hasSource := c.has 'e' || c.has 'f'
    if !hasSource ∧ c.others.isEmpty then
      tell editUsage
      return 1
    let given := if hasSource then c.given else [('e', c.others.head?)]
    let names := if hasSource then c.others else c.others.drop 1
    match ← scriptSources given with
    | .error words => failOf "sed" 4 words
    | .ok sources =>
      match EditScript.read (c.has 'E' || c.has 'r') (sources.map (·.1)) with
      | .error f =>
        let (words, status) := f.told sources
        failOf "sed" status words
      | .ok script =>
        if c.has 'i' ∧ names.isEmpty then return ← failOf "sed" 4 "no input files".toList
        let inPlace := if c.has 'i' then some ((c.value? 'i').getD []) else none
        let mode : EditMode := {
          script, inPlace
          isQuiet := script.isQuiet || c.has 'n'
          ending := if c.has 'z' then '\x00' else '\n'
          isApart := c.has 's' || c.has 'i'
          width := match c.value? 'l' with
            | some t => Text.digitsValue (t.takeWhile Char.isDigit)
            | none => 70
          voice := match sources.getLast? with
            | some (t, some name) =>
              "file ".toList ++ name ++ " line ".toList ++ shown (t.count '\n' + 2) ++ ": ".toList
            | _ =>
              let n := (sources.filter fun e ↦ e.2.isNone).length
              "-e expression #".toList ++ shown n ++ ", char 0: ".toList }
        for name in script.targets do
          if name != EditM.outputName ∧ name != EditM.errorName then
            match ← writeFile .writing name [] with
            | .error f =>
              return ← failOf "sed" 4
                ("couldn't open file ".toList ++ name ++ ": ".toList ++ f.words)
            | .ok () => pure ()
        let inputs ← (orInput names).mapM (editInput mode.ending (c.has 'i'))
        let start : EditRun := {
          ranges := script.openRanges, later := inputs
          current := ⟨['-'], [], some ([], true)⟩ }
        let (status, _) ← (EditM.edit mode launch run).run start
        return status

end CommandScript.Shell
