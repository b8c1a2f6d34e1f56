import CommandScript.Shell.Program.Launch
import CommandScript.Shell.Escape

/-!
# Running a program on the words of an input

The program `xargs` takes its input apart into words and runs a command again and again: on as many
words as fit, on a number of words or of lines at a time, or once for each line, which then takes
the place of a mark. Of the ways to put words together the one that is asked for last counts.
-/
namespace CommandScript.Shell

/-! ### Words of an input -/

/-- The words of a text between blanks, where quotes and backslashes keep blanks within a word, each
with whether it is the last of its line; and the quote that is not closed, if there is one. -/
def quotedWords : Option Char → Option Text → Text → List (Text × Bool) × Option Char
  | some q, _, [] => ([], some q)
  | none, word, [] => (word.toList.map fun w ↦ (w.reverse, true), none)
  | some q, word, c :: rest =>
    if c = q then quotedWords none (some (word.getD [])) rest
    else if c = '\n' then ([], some q)
    else quotedWords (some q) (some (c :: word.getD [])) rest
  | none, word, ['\\'] => (word.toList.map fun w ↦ (w.reverse, true), none)
  | none, word, '\\' :: c :: rest => quotedWords none (some (c :: word.getD [])) rest
  | none, word, c :: rest =>
    if c = Text.singleQuote ∨ c = '"' then quotedWords (some c) (some (word.getD [])) rest
    else if isSpace c then
      let (words, fault) := quotedWords none none rest
      (match word with
        | some w => (w.reverse, c = '\n') :: words
        | none => words, fault)
    else quotedWords none (some (c :: word.getD [])) rest

/-- The lines of a text without the blanks in front, as words in which quotes and backslashes have
lost their meaning; and the quote that is not closed, if there is one. -/
def quotedLines : List Text → List (Text × Bool) × Option Char
  | [] => ([], none)
  | line :: rest =>
    match line.dropWhile isSpace with
    | [] => quotedLines rest
    | line =>
      -- A blank in a line ends no word.
      match quotedWords none none (line.map fun c ↦ if c = ' ' then '\x01' else c) with
      | (words, none) =>
        let whole := (words.flatMap (·.1)).map fun c ↦ if c = '\x01' then ' ' else c
        let (lines, fault) := quotedLines rest
        ((whole, true) :: lines, fault)
      | (_, fault) => ([], fault)

/-- The character between the parts of an input that an option gives. -/
def delimiter? (t : Text) : Except Text Char :=
  match t with
  | [c] => .ok c
  | '\\' :: c :: rest =>
    if (c = 'x' ∧ !rest.isEmpty) ∨ c.isDigit ∨ "abfnrtv\\".toList.contains c then
      .ok ((unescapeQuoted (t.length + 1) t).headD '\x00')
    else .error ("Invalid escape sequence ".toList ++ t ++
      " in input delimiter specification.".toList)
  | t => .error ("Invalid input delimiter specification ".toList ++ t ++
      (": the delimiter must be either a single character or an escape sequence starting " ++
        "with \\.").toList)

/-- What is said of a quote that is not closed. -/
def unclosedQuote (q : Char) : Text :=
  "unmatched ".toList ++ (if q = '"' then "double" else "single").toList ++
    " quote; by default quotes are special to xargs unless you use the -0 option".toList

/-! ### Ways to put words together -/

/-- How words are put together for the calls of a command. -/
structure Grouping where
  /-- The greatest number of words of a call. -/
  words : Option Nat := none
  /-- The number of lines of a call. -/
  lines : Option Nat := none
  /-- The mark in whose place a line is put. -/
  mark : Option Text := none
  /-- The greatest length of a call, where each word counts one more than it is long. -/
  size : Nat := 131072
  /-- Whether a call that is too long is a fault. -/
  isStrict : Bool := false
  /-- What is to be said of ways that have been given up for later ones, the latest first. -/
  told : List Text := []

/-- A warning that a later option has made an earlier one void. -/
def exclusive (before after : String) : Text :=
  ("warning: options " ++ before ++ " and " ++ after ++
    " are mutually exclusive, ignoring previous " ++ before ++ " value").toList

/-- A number that an option gives, which has to reach a least one. -/
def leastCount (letter : Char) (least : Int) (t : Text) : Except Text Int :=
  match wholeNumber? t with
  | none =>
    .error ("invalid number \"".toList ++ t ++ "\" for -".toList ++ [letter] ++ " option".toList)
  | some n =>
    if n < least then
      .error ("value ".toList ++ (toString n).toList ++ " for -".toList ++ [letter] ++
        " option should be >= ".toList ++ (toString least).toList)
    else .ok n

namespace Grouping

/-- The warnings of an option, given how it is called and which of the other ways are in use. -/
def warnings (g : Grouping) (called : String) (byWords byLines byMark : Bool) : List Text :=
  (if byMark && g.mark.isSome then [exclusive "--replace" called] else []) ++
    (if byLines && g.lines.isSome then [exclusive "--max-lines" called] else []) ++
    (if byWords && g.words.isSome then [exclusive "--max-args" called] else [])

/-- Lets lines be counted. -/
def byLines (g : Grouping) (called : String) (n : Nat) : Grouping :=
  { g with
    words := none
    lines := some n
    mark := none
    told := g.warnings called true false true ++ g.told }

/-- Lets a line take the place of a mark. -/
def byMark (g : Grouping) (mark : Text) : Grouping :=
  { g with
    words := none
    lines := none
    mark := some mark
    told := g.warnings "--replace/-I/-i" true true false ++ g.told }

/-- Lets words be counted. One word at a time goes together with a mark. -/
def byWords (g : Grouping) (n : Nat) : Grouping :=
  if n = 1 ∧ g.mark.isSome then g
  else
    { g with
      words := some n
      lines := none
      mark := none
      told := g.warnings "--max-args/-n" false true true ++ g.told }

/-- What becomes of a grouping by one more option. -/
def add (g : Grouping) : Char × Option Text → Except Text Grouping
  | ('n', some t) => (leastCount 'n' 1 t).map fun n ↦ g.byWords n.toNat
  | ('L', some t) => (leastCount 'L' 1 t).map fun n ↦ g.byLines "-L" n.toNat
  | ('l', t) => (leastCount 'l' 1 (t.getD ['1'])).map fun n ↦ g.byLines "--max-lines/-l" n.toNat
  | ('I', some mark) => .ok (g.byMark mark)
  | ('i', mark) => .ok (g.byMark (mark.getD "\x7b\x7d".toList))
  | ('P', some t) => (leastCount 'P' 0 t).map fun _ ↦ g
  | ('s', some t) => (leastCount 's' 1 t).map fun n ↦ { g with size := n.toNat }
  | ('d', some t) => (delimiter? t).map fun _ ↦ g
  | ('x', _) => .ok { g with isStrict := true }
  | _ => .ok g

/-- The room that a word takes. -/
def room (w : Text) : Nat := w.length + 1

/-- What is too long for a call. -/
inductive TooLong where
  /-- A word by itself. -/
  | word
  /-- All that belongs into one call. -/
  | call
  deriving DecidableEq, Repr

/-- What is said of something that is too long. -/
def TooLong.words : TooLong → String
  | .word => "argument line too long"
  | .call => "argument list too long"

/-- A call under way. -/
structure Call where
  /-- Its words, the latest first. -/
  words : List Text := []
  /-- How many they are. -/
  count : Nat := 0
  /-- How many lines have ended in it. -/
  lines : Nat := 0
  /-- The room that its words take. -/
  used : Nat := 0

/-- The calls with the words of one before them, if it has any. -/
def Call.before (call : Call) (found : List (List Text) × Option TooLong) :
    List (List Text) × Option TooLong :=
  if call.words.isEmpty then found else (call.words.reverse :: found.1, found.2)

/-- A call with one more word, which may be the last of its line. -/
def Call.push (call : Call) (w : Text) (ends : Bool) : Call :=
  ⟨w :: call.words, call.count + 1, call.lines + (if ends then 1 else 0), call.used + room w⟩

/-- The words of calls of a command that takes some room, given the call under way; and what is too
long, if something is. -/
def calls (g : Grouping) (base : Nat) :
    Call → List (Text × Bool) → List (List Text) × Option TooLong
  | now, [] => now.before ([], none)
  | now, (w, ends) :: rest =>
    let isStrict := g.isStrict && (g.words.isSome || g.lines.isSome)
    let overflows := g.size < base + now.used + room w
    if g.size < base + room w then now.before ([], some .word)
    else if overflows ∧ isStrict then ([], some .call)
    else
      let next := (if overflows then {} else now).push w ends
      let isFull := g.words = some next.count || (ends && g.lines = some next.lines)
      let found := if isFull then next.before (calls g base {} rest) else calls g base next rest
      if overflows then now.before found else found

end Grouping

/-! ### The program -/

/-- The options of `xargs`. -/
def wordsForm : OptionForm := {
  name := "xargs", plain := "0rtxop", valued := "nILPsdEaV", optional := "ile", inFront := true
  long := [("null", '0'), ("no-run-if-empty", 'r'), ("verbose", 't'), ("exit", 'x'),
    ("max-args", 'n'), ("replace", 'i'), ("max-lines", 'l'), ("max-procs", 'P'), ("max-chars", 's'),
    ("delimiter", 'd'), ("arg-file", 'a'), ("eof", 'e'), ("interactive", 'p'), ("open-tty", 'o'),
    ("process-slot-var", 'V')] }

/-- The words that an input gives, with where its lines end, and the quote that is not closed. -/
def inputWords (c : Choices) (byLines : Bool) (t : Text) : List (Text × Bool) × Option Char :=
  let parts (ending : Char) : List (Text × Bool) × Option Char :=
    ((splitLines ending t).1.map fun w ↦ (w, true), none)
  match c.last? "0d", (c.value? 'd').map delimiter? with
  | some '0', _ => parts '\x00'
  | some 'd', some (.ok ending) => parts ending
  | _, _ =>
    let (words, fault) := if byLines then quotedLines (linesOf t) else quotedWords none none t
    let stop := ((c.last? "Ee").bind c.value?).filter (!·.isEmpty)
    let isStop (w : Text × Bool) : Bool := some w.1 = stop
    (words.takeWhile (!isStop ·), if words.any isStop then none else fault)

section Calls

variable (launch : Launch) (run : Runner)

/-- Runs a command of words for `xargs`, and gives the status so far and whether to go on. -/
def runCall (c : Choices) (status : Nat) (words : List Text) : Act (Nat × Bool) := do
  let name := words.headD []
  if c.has 't' then tellLine ([' '].intercalate (words.map shownName))
  let conduit ← newConduit .nothing
  let found ← inProcess run name false do
    setChannel 0 conduit
    if let some slot := c.value? 'V' then
      modify fun s ↦
        { s with scopes := [environmentScope (withVariable slot ['0'] s.environment)] }
    match ← launch name (words.drop 1) with
    | .ok status => return status
    | .error f =>
      tellOf "xargs" (name ++ ": ".toList ++ f.words)
      modify fun s ↦ { s with status := f.status }
      throw .exits
  modify fun s ↦ { s with conduits := s.conduits.filter (·.1 != conduit) }
  match found with
  | (_, some signal) =>
    tellOf "xargs" (name ++ ": terminated by signal ".toList ++ shown signal)
    return (125, false)
  | (255, none) =>
    tellOf "xargs" (name ++ ": exited with status 255; aborting".toList)
    return (124, false)
  | (n, none) =>
    if n = 126 ∨ n = 127 then return (n, false)
    else return (if n = 0 then status else 123, true)

/-- Runs commands of words for `xargs`, one after the other, and then tells a fault that has been
met, if there is one. -/
def runCalls (c : Choices) (fault : Option Text) : Nat → List (List Text) → Act Nat
  | status, [] =>
    match fault with
    | some message => failOf "xargs" 1 message
    | none => return status
  | status, words :: rest => do
    let (status, goesOn) ← runCall launch run c status words
    if goesOn then runCalls c fault status rest else return status

/-- Runs a command on the words of an input. -/
def runOnInput (c : Choices) (g : Grouping) (t : Text) : Act Nat := do
  let command := if c.others.isEmpty then ["echo".toList] else c.others
  let base := sumOf (command.map Grouping.room)
  let (words, open?) := inputWords c g.mark.isSome t
  let fault := open?.map unclosedQuote
  match g.mark with
  | some mark =>
    let filled := words.map fun w ↦
      command.map fun part ↦ replaceMark mark w.1 part
    let fits (call : List Text) : Bool := sumOf (call.map Grouping.room) ≤ g.size
    let isLong := filled.any (!fits ·)
    runCalls launch run c
      (if isLong then some Grouping.TooLong.call.words.toList else fault) 0
      (filled.takeWhile fits)
  | none =>
    if g.size ≤ base then
      failOf "xargs" 1 "cannot fit single argument within argument list size limit".toList
    else if words.isEmpty ∧ fault.isNone then
      runCalls launch run c none 0 (if c.has 'r' then [] else [command])
    else
      let (calls, long?) := g.calls base {} words
      runCalls launch run c ((long?.map fun l ↦ l.words.toList).or fault) 0
        (calls.map (command ++ ·))

/-- The program `xargs`. -/
def runOnWords : Utility := fun arguments ↦
  wordsForm.choose arguments fun c ↦ do
    match c.given.foldlM Grouping.add {} with
    | .error message =>
      if "Invalid".toList.isPrefixOf message then failOf "xargs" 1 message
      else wordsForm.misuse message
    | .ok g =>
      for t in g.told.reverse do tellOf "xargs" t
      if c.has 'E' ∧ (c.has '0' ∨ c.has 'd') then
        tellOf "xargs" "warning: the -E option has no effect if -0 or -d is used.\n".toList
      let input ← match c.value? 'a' with
        | some name => readFile name
        | none => readAll 0
      match input with
      | .error f => failOf "xargs" 1 ("Cannot open input file ".toList ++
          curled ((c.value? 'a').getD []) ++ ": ".toList ++ f.words)
      | .ok t => runOnInput launch run c g t

end Calls

end CommandScript.Shell
