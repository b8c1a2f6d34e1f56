import CommandScript.Shell.Expression
import CommandScript.Shell.Program.Basic

/-!
# Scripts of a stream editor

A script is a row of commands, each with an address that says for which lines it is done. Commands
that belong together stand between braces; the brace that opens knows where they end. A script comes
in one or more sources, which are read one after the other like lines of one text; a fault is told
with its source and with how much of that has been read.
-/
namespace CommandScript.Shell

/-! ### Commands -/

/-- An **address**: what lines are asked for. -/
inductive EditAddress where
  /-- The line of a number. -/
  | line (n : Nat)
  /-- A line and every so many after it. -/
  | every (first step : Nat)
  /-- The last line. -/
  | last
  /-- The lines in which an expression occurs, or the one that has been looked for last. -/
  | found (e : Option Expression)
  deriving DecidableEq, Repr

/-- Where a range of lines ends. -/
inductive EditEnd where
  /-- At an address. -/
  | at (a : EditAddress)
  /-- A number of lines after its start. -/
  | after (n : Nat)
  /-- At the first line after its start whose number is a multiple of a number. -/
  | multiple (n : Nat)
  deriving DecidableEq, Repr

/-- For which lines a command is done. -/
structure EditPlace where
  /-- Where it starts, or nothing for all lines. -/
  first : Option EditAddress := none
  /-- Where the range ends, if it is one. -/
  finish : Option EditEnd := none
  /-- Whether it is done for all other lines. -/
  inverted : Bool := false
  deriving DecidableEq, Repr

/-- How letters are turned. -/
inductive LetterTurn where
  /-- All that come are capital. -/
  | upper
  /-- All that come are small. -/
  | lower
  /-- The next one is capital. -/
  | nextUpper
  /-- The next one is small. -/
  | nextLower
  /-- They stay as they are. -/
  | stop
  deriving DecidableEq, Repr

/-- A part of what replaces a match. -/
inductive EditPiece where
  /-- A character. -/
  | letter (c : Char)
  /-- What a group has matched, where zero stands for all. -/
  | group (n : Nat)
  /-- A turn of the letters that come. -/
  | turn (t : LetterTurn)
  deriving DecidableEq, Repr

/-- A **substitution**. -/
structure Substitution where
  /-- What is looked for, or nothing for what has been looked for last. -/
  wanted : Option Expression
  /-- What replaces it. -/
  pieces : List EditPiece
  /-- The number of the first match that is replaced. -/
  start : Nat := 1
  /-- Whether those after it are replaced too. -/
  every : Bool := false
  /-- Whether the line is written where something is replaced. -/
  prints : Bool := false
  /-- Whether the line is run as a command where something is replaced. -/
  runs : Bool := false
  /-- The file to which the line is written then. -/
  target : Option Text := none
  deriving DecidableEq, Repr

/-- How a jump depends on substitutions. -/
inductive EditJump where
  /-- It does not. -/
  | always
  /-- One has to have been made since the last line or jump. -/
  | replaced
  /-- None may have been made. -/
  | unreplaced
  deriving DecidableEq, Repr

/-- What a command does. -/
inductive EditAction where
  /-- Commands up to the one of a number belong together. -/
  | opening (finish : Nat)
  /-- They end. -/
  | closing
  /-- A place to jump to. -/
  | label (name : Text)
  /-- Writes the number of the line. -/
  | number
  /-- Writes a text after the line. -/
  | append (t : Text)
  /-- Writes a text before the line. -/
  | insert (t : Text)
  /-- Writes a text in the place of the lines. -/
  | change (t : Text)
  /-- Jumps to a label, or to the end. -/
  | jump (when : EditJump) (name : Text)
  /-- Drops the line. -/
  | delete
  /-- Drops the first part of the line. -/
  | deleteFirst
  /-- Runs a command, or the line as one. -/
  | run (t : Option Text)
  /-- Writes the name of the file. -/
  | fileName
  /-- Takes what is kept. -/
  | take
  /-- Takes what is kept behind the line. -/
  | takeBehind
  /-- Keeps the line. -/
  | keep
  /-- Keeps the line behind what is kept. -/
  | keepBehind
  /-- Exchanges the line and what is kept. -/
  | exchange
  /-- Writes the line so that all can be seen, in rows of a width. -/
  | list (width : Option Nat)
  /-- Goes on with the next line. -/
  | next
  /-- Puts the next line behind the line. -/
  | nextBehind
  /-- Writes the line. -/
  | print
  /-- Writes the first part of the line. -/
  | printFirst
  /-- Ends with a status, and writes the line before that or not. -/
  | quit (status : Nat) (writes : Bool)
  /-- Writes a file after the line. -/
  | read (name : Text)
  /-- Writes the next line of a file after the line. -/
  | readLine (name : Text)
  /-- Replaces matches. -/
  | substitute (s : Substitution)
  /-- Writes the line to a file. -/
  | write (name : Text)
  /-- Writes the first part of the line to a file. -/
  | writeFirst (name : Text)
  /-- Replaces characters by others. -/
  | exchangeLetters (pairs : List (Char × Char))
  /-- Empties the line. -/
  | clear
  /-- Nothing. -/
  | nothing
  deriving DecidableEq, Repr

/-- A **command** of a script. -/
structure EditCommand where
  /-- For which lines it is done. -/
  place : EditPlace
  /-- What is done. -/
  action : EditAction
  deriving DecidableEq, Repr

/-! ### Reading signs -/

/-- Why a script cannot be read. -/
inductive EditFault where
  /-- Something is wrong at a place: the number of the source, how many signs and how many lines of
  it have been read, and the words. -/
  | wrong (source read line : Nat) (words : Text)
  /-- Something is wrong with the whole. -/
  | whole (words : Text)
  deriving Repr

/-- Where the reading of a script stands. -/
structure EditReading where
  /-- What is still to be read. -/
  rest : Text
  /-- The number of the source. -/
  source : Nat := 1
  /-- How many signs of the source have been read. -/
  read : Nat := 0
  /-- The line of the source. -/
  line : Nat := 1
  /-- Whether expressions are extended ones. -/
  isExtended : Bool
  /-- The commands so far, the latest first. -/
  commands : List EditCommand := []
  /-- The numbers of the commands that open groups, each with the source and the line where it
  stands. -/
  opened : List (Nat × Nat × Nat) := []
  /-- Whether lines are written only where that is asked for. -/
  isQuiet : Bool := false

/-- A computation that reads a script. -/
abbrev EditReader := StateT EditReading (Except EditFault)

namespace EditReader

/-- The mark between two sources. -/
def border : Char := Char.ofNat 0x100

/-- Refuses what has been read. -/
def refuse {α : Type} (words : String) : EditReader α := do
  let r ← get
  throw (.wrong r.source r.read r.line words.toList)

/-- Passes over signs. -/
def pass (t : Text) (rest : Text) : EditReader Unit := modify fun r ↦
  { r with rest, read := r.read + t.length, line := r.line + t.count '\n' }

/-- Reads a sign, if there is one in the source. -/
def sign : EditReader (Option Char) := do
  match (← get).rest with
  | [] => return none
  | c :: rest =>
    if c = border then return none
    pass [c] rest
    return some c

/-- Goes on with the next source, and gives whether there is one. -/
def nextSource : EditReader Bool := do
  let r ← get
  match r.rest with
  | c :: rest =>
    if c = border then
      set { r with rest, source := r.source + 1, read := 0, line := 1 }
      return true
    else return false
  | [] => return false

/-- Passes over blanks. -/
def skipBlanks : EditReader Unit := do
  let blanks := (← get).rest.takeWhile isShellBlank
  pass blanks ((← get).rest.drop blanks.length)

/-- Reads the first sign that is no blank. -/
def filledSign : EditReader (Option Char) := do
  skipBlanks
  sign

/-- The sign that comes next, which is not read. -/
def comingSign : EditReader (Option Char) := do
  match (← get).rest with
  | [] => return none
  | c :: _ => return if c = border then none else some c

/-- Reads signs as long as they are of a kind. -/
def signsOf (test : Char → Bool) : EditReader Text := do
  let t := (← get).rest.takeWhile fun c ↦ c != border && test c
  pass t ((← get).rest.drop t.length)
  return t

/-- Reads a number. -/
def number : EditReader Nat := do return Text.digitsValue (← signsOf Char.isDigit)

/-- Reads the end of a command. -/
def commandEnd : EditReader Unit := do
  skipBlanks
  match ← comingSign with
  | none => return
  | some c =>
    if c = '\x7d' ∨ c = '#' then return
    let _ ← sign
    if c = '\n' ∨ c = ';' then return
    refuse "extra characters after command"

/-! ### Reading parts -/

/-- How the reading of a delimited part stands to brackets. -/
inductive BracketPlace where
  /-- Outside of them. -/
  | outside
  /-- Right behind the one that opens. -/
  | start
  /-- Within them. -/
  | inside
  /-- Within the name of a class. -/
  | named
  deriving DecidableEq, Repr

/-- The part up to a delimiter, and how many signs have been read with it; or how many there are up
to where it is seen that no delimiter comes. In an expression, brackets keep a delimiter. -/
def delimited (slash : Char) (isExpression : Bool) : BracketPlace → Nat → Text → Text →
    Except Nat (Text × Nat)
  | _, n, _, [] => .error n
  | .outside, n, part, '\\' :: c :: rest =>
    if c = border then .error (n + 1)
    else if c = slash then
      delimited slash isExpression .outside (n + 2)
        (if c = '&' ∧ !isExpression then c :: '\\' :: part else c :: part) rest
    else if c = '\n' then delimited slash isExpression .outside (n + 2) (c :: part) rest
    else if c = 'n' ∧ isExpression then
      delimited slash isExpression .outside (n + 2) ('\n' :: part) rest
    else delimited slash isExpression .outside (n + 2) (c :: '\\' :: part) rest
  | .outside, n, part, c :: rest =>
    if c = border ∨ c = '\n' then .error n
    else if c = slash then .ok (part.reverse, n + 1)
    else if c = '[' ∧ isExpression then
      delimited slash isExpression .start (n + 1) (c :: part) rest
    else delimited slash isExpression .outside (n + 1) (c :: part) rest
  | place, n, part, '\\' :: 'n' :: rest =>
    delimited slash isExpression (if place = .start then .inside else place) (n + 2)
      ('\n' :: part) rest
  | place, n, part, c :: rest =>
    if c = border ∨ c = '\n' then .error n
    else
      let next : BracketPlace := match place with
        | .start => if c = '^' ∧ part.head? = some '[' then .start else .inside
        | .named => if c = ']' then .inside else .named
        | _ =>
          if c = ']' then .outside
          else if c = '[' ∧ (rest.head?.any fun d ↦ d = ':' ∨ d = '.' ∨ d = '=') then .named
          else .inside
      let next := if place = .start ∧ c = '[' ∧
          (rest.head?.any fun d ↦ d = ':' ∨ d = '.' ∨ d = '=') then .named else next
      delimited slash isExpression next (n + 1) (c :: part) rest

/-- Reads a part up to a delimiter. -/
def part (slash : Char) (isExpression : Bool) (words : String) : EditReader Text := do
  let rest := (← get).rest
  match delimited slash isExpression .outside 0 [] rest with
  | .ok (t, n) =>
    pass (rest.take n) (rest.drop n)
    return t
  | .error n =>
    pass (rest.take n) (rest.drop n)
    refuse words

/-- The character that an escape by a number stands for, and what follows. -/
def numbered (base width : Nat) (rest : Text) : Option (Char × Text) :=
  let (value, digits, after) := takeNumber base width 0 0 rest
  if digits = 0 then none else some (octalOctet value, after)

/-- The character that a letter after a backslash stands for, and what follows. -/
def escapedLetter? (c : Char) (rest : Text) : Option (Char × Text) :=
  match c with
  | 'a' => some ('\x07', rest)
  | 'f' => some ('\x0C', rest)
  | 't' => some ('\t', rest)
  | 'v' => some ('\x0B', rest)
  | 'r' => some ('\r', rest)
  | 'd' => numbered 10 3 rest
  | 'o' => numbered 8 3 rest
  | 'x' => numbered 16 2 rest
  | 'c' => match rest with
    | d :: rest => some (Char.ofNat (d.toUpper.toNat ^^^ 0x40), rest)
    | [] => none
  | _ => none

/-- The source of an expression with the escapes replaced that the notation does not know. -/
def expressionSource : Nat → Text → Text
  | 0, _ => []
  | _, [] => []
  | n + 1, '\\' :: c :: rest =>
    match escapedLetter? c rest with
    | some (d, after) => d :: expressionSource n after
    | none => '\\' :: c :: expressionSource n rest
  | n + 1, c :: rest => c :: expressionSource n rest

/-- The parts of a replacement. -/
def pieces : Nat → Text → List EditPiece
  | 0, _ => []
  | _, [] => []
  | n + 1, '\\' :: c :: rest =>
    let turn (t : LetterTurn) : List EditPiece := .turn t :: pieces n rest
    match c with
    | 'L' => turn .lower
    | 'U' => turn .upper
    | 'E' => turn .stop
    | 'l' => turn .nextLower
    | 'u' => turn .nextUpper
    | 'n' => .letter '\n' :: pieces n rest
    | c =>
      if c.isDigit then .group (c.toNat - '0'.toNat) :: pieces n rest
      else match escapedLetter? c rest with
        | some (d, after) => .letter d :: pieces n after
        | none => .letter c :: pieces n rest
  | n + 1, '&' :: rest => .group 0 :: pieces n rest
  | n + 1, c :: rest => .letter c :: pieces n rest

/-- The spelling of the expressions of a script. -/
def spelling (isExtended byLines : Bool) : Expression.Spelling :=
  if isExtended then
    { Expression.Spelling.extended with closesChecked := true, classesChecked := true, byLines }
  else
    { Expression.Spelling.basic with
      onceOnly := true, classesChecked := true, rangesChecked := true, byLines }

/-- The expression of a source, with its options; nothing where the source is empty. -/
def expression (source : Text) (anyCase byLines : Bool) : EditReader (Option Expression) := do
  if source.isEmpty then
    if anyCase ∨ byLines then refuse "cannot specify modifiers on empty regexp"
    return none
  match Expression.read (spelling (← get).isExtended byLines)
      (wide (expressionSource (source.length + 1) source)) with
  | .ok e => return some (if anyCase then e.eitherCase else e)
  | .error .bareClass => throw (.whole Expression.Flaw.bareClass.words.toList)
  | .error f => refuse f.words

/-! ### Reading commands -/

/-- The options behind the expression of an address. -/
def addressOptions : Nat → Bool → Bool → EditReader (Bool × Bool)
  | 0, anyCase, byLines => return (anyCase, byLines)
  | n + 1, anyCase, byLines => do
    skipBlanks
    match ← comingSign with
    | some 'I' =>
      let _ ← sign
      addressOptions n true byLines
    | some 'M' =>
      let _ ← sign
      addressOptions n anyCase true
    | _ => return (anyCase, byLines)

/-- Reads an address that starts with a sign. -/
def address? (c : Char) : EditReader (Option EditEnd) := do
  if c = '/' ∨ c = '\\' then
    let slash ← if c = '/' then pure (some c) else sign
    match slash with
    | none => refuse "unterminated address regex"
    | some slash =>
      let source ← part slash true "unterminated address regex"
      let (anyCase, byLines) ← addressOptions (← get).rest.length false false
      return some (.at (.found (← expression source anyCase byLines)))
  else if c.isDigit then
    let digits ← signsOf Char.isDigit
    let n := Text.digitsValue (c :: digits)
    skipBlanks
    if (← comingSign) = some '~' then
      let _ ← sign
      skipBlanks
      let step ← number
      return some (.at (if step = 0 then .line n else .every n step))
    return some (.at (.line n))
  else if c = '$' then return some (.at .last)
  else if c = '+' ∨ c = '~' then
    skipBlanks
    let n ← number
    return some (if c = '+' then .after n else .multiple n)
  else return none

/-- Reads the place of a command, and the sign behind it. -/
def place : Option Char → EditReader (EditPlace × Option Char)
  | none => return ({}, none)
  | some c => do
    let mut p : EditPlace := {}
    let mut next := some c
    match ← address? c with
    | none => pure ()
    | some (.at first) =>
      p := { p with first := some first }
      next ← filledSign
      if next = some ',' then
        match ← filledSign with
        | none => refuse "unexpected \x60,'"
        | some d =>
          match ← address? d with
          | none => refuse "unexpected \x60,'"
          | some finish =>
            p := { p with finish := some finish }
            next ← filledSign
      let isFound := match p.finish with
        | some (.at (.found _)) => true
        | _ => false
      if first = .line 0 ∧ !isFound then refuse "invalid usage of line address 0"
    | some _ => refuse "invalid usage of +N or ~N as first address"
    if next = some '!' then
      p := { p with inverted := true }
      next ← filledSign
      if next = some '!' then refuse "multiple \x60!'s"
    return (p, next)

/-- Reads the text of a command up to the end of its line. A backslash keeps the end of a line. -/
def textLines : Nat → Text → EditReader Text
  | 0, t => return t.reverse
  | n + 1, t => do
    match ← sign with
    | none => return ('\n' :: t).reverse
    | some '\n' => return ('\n' :: t).reverse
    | some '\\' =>
      match ← sign with
      | none =>
        if ← nextSource then textLines n ('\n' :: t) else return ('\n' :: t).reverse
      | some 'n' => textLines n ('\n' :: t)
      | some c =>
        let rest := (← get).rest
        match escapedLetter? c rest with
        | some (d, after) =>
          pass (rest.take (rest.length - after.length)) after
          textLines n (d :: t)
        | none => textLines n (c :: t)
    | some c => textLines n (c :: t)

/-- Reads the text of a command that writes one. -/
def commandText : EditReader Text := do
  let all (t : Text) : EditReader Text := do textLines ((← get).rest.length + 1) t
  skipBlanks
  match ← comingSign with
  | none => refuse "expected \\ after \x60a', \x60c' or \x60i'"
  | some '\n' =>
    let _ ← sign
    return []
  | some '\\' =>
    let _ ← sign
    match ← comingSign with
    | none => if ← nextSource then all [] else return []
    | some '\n' =>
      let _ ← sign
      all []
    | some _ => all []
  | some _ => all []

/-- Reads the name of a file. -/
def fileName : EditReader Text := do
  skipBlanks
  let name ← signsOf (· != '\n')
  if name.isEmpty then refuse "missing filename in r/R/w/W commands"
  return name

/-- Reads a label. -/
def labelName : EditReader Text := do
  skipBlanks
  signsOf fun c ↦ !isSpace c && c != ';' && c != '\x7d'

/-- Reads the options of a substitution, and whether letters of either case are alike and lines are
looked at one by one. -/
def substitutionOptions : Nat → Substitution → Option Nat → Bool → Bool →
    EditReader (Substitution × Bool × Bool)
  | 0, s, _, anyCase, byLines => return (s, anyCase, byLines)
  | n + 1, s, count, anyCase, byLines => do
    skipBlanks
    match ← comingSign with
    | none => return (s, anyCase, byLines)
    | some c =>
      if c = '\x7d' ∨ c = '#' then return (s, anyCase, byLines)
      let _ ← sign
      match c with
      | '\n' => return (s, anyCase, byLines)
      | ';' => return (s, anyCase, byLines)
      | 'i' => substitutionOptions n s count true byLines
      | 'I' => substitutionOptions n s count true byLines
      | 'm' => substitutionOptions n s count anyCase true
      | 'M' => substitutionOptions n s count anyCase true
      | 'e' => substitutionOptions n { s with runs := true } count anyCase byLines
      | 'p' =>
        if s.prints then refuse "multiple \x60p' options to \x60s' command"
        substitutionOptions n { s with prints := true } count anyCase byLines
      | 'g' =>
        if s.every then refuse "multiple \x60g' options to \x60s' command"
        substitutionOptions n { s with every := true } count anyCase byLines
      | 'w' => return ({ s with target := some (← fileName) }, anyCase, byLines)
      | c =>
        if !c.isDigit then refuse "unknown option to \x60s'"
        else if count.isSome then refuse "multiple number options to \x60s' command"
        else
          let digits ← signsOf Char.isDigit
          let k := Text.digitsValue (c :: digits)
          if k = 0 then refuse "number option to \x60s' command may not be zero"
          substitutionOptions n { s with start := k } (some k) anyCase byLines

/-- Reads a substitution. -/
def substitution : EditReader Substitution := do
  let words := "unterminated \x60s' command"
  match ← sign with
  | none => refuse words
  | some slash =>
    let source ← part slash true words
    let replacement ← part slash false words
    let pieces := pieces (replacement.length + 1) (wide replacement)
    let (s, anyCase, byLines) ← substitutionOptions ((← get).rest.length + 1)
      { wanted := none, pieces } none false false
    let wanted ← expression source anyCase byLines
    let asked := pieces.foldl (fun n p ↦ match p with
      | .group k => max n k
      | _ => n) 0
    match wanted with
    | some e =>
      if e.groupCount < asked then
        refuse ("invalid reference \\" ++ toString asked ++ " on \x60s' command's RHS")
    | none => pure ()
    return { s with wanted }

/-- The characters of one side of an exchange. -/
def exchanged : Nat → Text → Text
  | 0, _ => []
  | _, [] => []
  | n + 1, '\\' :: c :: rest =>
    if c = '\\' then '\\' :: exchanged n rest
    else if c = 'n' then '\n' :: exchanged n rest
    else match escapedLetter? c rest with
      | some (d, after) => d :: exchanged n after
      | none => '\\' :: c :: exchanged n rest
  | n + 1, c :: rest => c :: exchanged n rest

/-- Reads an exchange of characters. -/
def exchange : EditReader (List (Char × Char)) := do
  let words := "unterminated \x60y' command"
  match ← sign with
  | none => refuse words
  | some slash =>
    let side : EditReader Text := do
      let t ← part slash false words
      return exchanged (t.length + 1) (wide t)
    let (before, after) := (← side, ← side)
    if before.length ≠ after.length then refuse "strings for \x60y' command are different lengths"
    commandEnd
    return before.zip after

/-- Reads a number that may be missing, and the end of the command. -/
def lastNumber : EditReader (Option Nat) := do
  skipBlanks
  let digits ← signsOf Char.isDigit
  commandEnd
  return if digits.isEmpty then none else some (Text.digitsValue digits)

/-- Adds a command. -/
def add (p : EditPlace) (action : EditAction) : EditReader Unit := modify fun r ↦
  { r with commands := ⟨p, action⟩ :: r.commands }

/-- Whether a version is one that is known. -/
def isKnownVersion (t : Text) : Bool :=
  let part (t : Text) : Nat := Text.digitsValue (t.takeWhile Char.isDigit)
  match Text.fields '.' t with
  | first :: second :: _ => part first < 4 || (part first = 4 && part second ≤ 9)
  | [first] => part first ≤ 4
  | [] => true

/-- Reads the rest of a command whose sign has been read. -/
def command (p : EditPlace) (c : Char) : EditReader Unit := do
  let plain (action : EditAction) : EditReader Unit := do
    commandEnd
    add p action
  let onlyOne : EditReader Unit := do
    if p.finish.isSome then refuse "command only uses one address"
  match c with
  | '\x7b' =>
    modify fun r ↦ { r with opened := (r.commands.length, r.source, r.line) :: r.opened }
    add p (.opening 0)
  | '\x7d' =>
    let r ← get
    match r.opened with
    | [] => refuse "unexpected \x60\x7d'"
    | (start, _) :: opened =>
      if p.first.isSome then refuse "\x60\x7d' doesn't want any addresses"
      commandEnd
      modify fun r ↦
        let finish := r.commands.length
        let closed := r.commands.reverse.zipIdx.map fun (c, i) ↦
          if i = start then { c with action := .opening finish } else c
        { r with opened, commands := closed.reverse }
      add p .closing
  | '=' => plain .number
  | 'd' => plain .delete
  | 'D' => plain .deleteFirst
  | 'F' => plain .fileName
  | 'g' => plain .take
  | 'G' => plain .takeBehind
  | 'h' => plain .keep
  | 'H' => plain .keepBehind
  | 'n' => plain .next
  | 'N' => plain .nextBehind
  | 'p' => plain .print
  | 'P' => plain .printFirst
  | 'x' => plain .exchange
  | 'z' => plain .clear
  | 'a' => add p (.append (← commandText))
  | 'i' => add p (.insert (← commandText))
  | 'c' => add p (.change (← commandText))
  | 'e' =>
    skipBlanks
    match ← comingSign with
    | none => add p (.run none)
    | some '\n' => add p (.run none)
    | some _ => add p (.run (some (← textLines ((← get).rest.length + 1) [])))
  | ':' =>
    if p.first.isSome then refuse ": doesn't want any addresses"
    let name ← labelName
    if name.isEmpty then refuse "\":\" lacks a label"
    add p (.label name)
  | 'b' => add p (.jump .always (← labelName))
  | 't' => add p (.jump .replaced (← labelName))
  | 'T' => add p (.jump .unreplaced (← labelName))
  | 'q' =>
    onlyOne
    add p (.quit ((← lastNumber).getD 0) true)
  | 'Q' =>
    onlyOne
    add p (.quit ((← lastNumber).getD 0) false)
  | 'l' => add p (.list (← lastNumber))
  | 'r' => add p (.read (← fileName))
  | 'R' => add p (.readLine (← fileName))
  | 'w' => add p (.write (← fileName))
  | 'W' => add p (.writeFirst (← fileName))
  | 's' => add p (.substitute (← substitution))
  | 'y' => add p (.exchangeLetters (← exchange))
  | 'v' =>
    if !isKnownVersion (← labelName) then refuse "expected newer version of sed"
    add p .nothing
  | c => refuse ("unknown command: \x60" ++ String.singleton c ++ "'")

/-- Reads a comment, which may say that lines are written only where that is asked for. -/
def comment : EditReader Unit := do
  let t ← signsOf (· != '\n')
  let r ← get
  if t = ['n'] ∧ r.source = 1 ∧ r.read = 2 then set { r with isQuiet := true }

/-- Reads all commands. -/
def commands : Nat → EditReader Unit
  | 0 => return
  | n + 1 => do
    let _ ← signsOf fun c ↦ isSpace c || c = ';'
    match ← sign with
    | none => if ← nextSource then commands n
    | some '#' =>
      comment
      commands n
    | some c =>
      let (p, next) ← place (some c)
      match next with
      | none => refuse "missing command"
      | some '#' => refuse "comments don't accept any addresses"
      | some c => command p c
      commands n

end EditReader

/-- A **script**. -/
structure EditScript where
  /-- Its commands. -/
  commands : Array EditCommand
  /-- Whether lines are written only where that is asked for. -/
  isQuiet : Bool

/-- The place of a label among commands, or their end. -/
def EditScript.labelAt? (s : EditScript) (name : Text) : Option Nat :=
  if name.isEmpty then some s.commands.size
  else s.commands.findIdx? fun c ↦ c.action = .label name

/-- Reads a script from its sources. -/
def EditScript.read (isExtended : Bool) (sources : List Text) : Except EditFault EditScript :=
  let all := [EditReader.border].intercalate sources
  match (EditReader.commands (all.length + sources.length + 1)).run { rest := all, isExtended } with
  | .error f => .error f
  | .ok (_, r) =>
    let s : EditScript := ⟨r.commands.reverse.toArray, r.isQuiet⟩
    match r.opened with
    | (_, source, line) :: _ => .error (.wrong source 0 line "unmatched \x60\x7b'".toList)
    | [] =>
      match s.commands.toList.findSome? fun c ↦ match c.action with
        | .jump _ name => if (s.labelAt? name).isNone then some name else none
        | _ => none with
      | some name => .error (.whole ("can't find label for jump to ".toList ++ citedText name))
      | none => .ok s

end CommandScript.Shell
