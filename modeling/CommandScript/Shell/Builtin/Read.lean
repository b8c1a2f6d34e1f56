import CommandScript.Shell.Builtin.Usage
import CommandScript.Shell.Expansion

/-!
# Reading input

Reading a line of input into variables, split at separators, and reading many lines into an array.
No more is taken from the input than what is read, so that a command after it goes on from there.
-/
namespace CommandScript.Shell

/-- Where reading from an input ends. -/
structure ReadLimit where
  /-- The character that ends a line, if one does. -/
  stop : Option Char
  /-- The most characters that are read. -/
  count : Option Nat
  /-- Whether backslashes have no meaning. -/
  raw : Bool
  deriving DecidableEq, Repr

/-- What has been read from an input. -/
structure ReadLine where
  /-- The characters, with whether each could separate fields. -/
  line : Marked
  /-- Whether the line was complete. -/
  complete : Bool
  /-- How many octets have been taken. -/
  taken : Nat
  deriving DecidableEq, Repr

/-- Whether an octet goes on with a character that an earlier octet has opened. -/
def isContinuation (c : Char) : Bool := 0x80 ≤ c.toNat && c.toNat < 0xC0

/-- Reads from an input, given what has been read of it, the latest first. -/
def readFrom (limit : ReadLimit) : Nat → Marked → Nat → Nat → Text → ReadLine
  | 0, line, _, taken, _ => ⟨line.reverse, false, taken⟩
  | n + 1, line, count, taken, t =>
    let isFull := limit.count.any (· ≤ count)
    match t with
    | [] => ⟨line.reverse, isFull, taken⟩
    | c :: rest =>
      if isFull ∧ !isContinuation c then ⟨line.reverse, true, taken⟩
      else if some c = limit.stop then ⟨line.reverse, true, taken + 1⟩
      else if c = '\\' ∧ !limit.raw then
        match rest with
        | '\n' :: rest => readFrom limit n line count (taken + 2) rest
        | d :: rest => readFrom limit n ((d, false) :: line) (count + 1) (taken + 2) rest
        | [] => ⟨line.reverse, false, taken + 1⟩
      else if c = '\x00' then readFrom limit n line count (taken + 1) rest
      else
        let count := if isContinuation c then count else count + 1
        readFrom limit n ((c, true) :: line) count (taken + 1) rest

/-- The values that a line gives to a number of variables; the last one takes all that is left. -/
def lineValues (separators : Text) : Nat → Marked → List Text
  | 0, _ => []
  | n + 1, line =>
    let splits (c : Char × Bool) : Bool := c.2 && separators.contains c.1
    let isBlank (c : Char × Bool) : Bool := splits c && (isShellBlank c.1 || c.1 == '\n')
    let line := line.dropWhile isBlank
    if n = 0 then
      let trimmed := (line.reverse.dropWhile isBlank).reverse
      let single := trimmed.takeWhile (!splits ·)
      let after := (trimmed.drop single.length).dropWhile isBlank
      match after with
      | [c] => [Marked.text (if splits c then single else trimmed)]
      | _ => [Marked.text trimmed]
    else
      let value := line.takeWhile (!splits ·)
      let after := (line.drop value.length).dropWhile isBlank
      let after := match after with
        | c :: rest => if splits c then rest.dropWhile isBlank else after
        | [] => []
      Marked.text value :: lineValues separators n after

/-- The fields of a line. -/
def lineFields (separators : Text) (line : Marked) : List Text :=
  let step (x : Splitting) (c : Char × Bool) : Splitting :=
    if c.2 then x.step separators c.1 else x.add false [c.1]
  (line.foldl step ⟨[], none, false⟩).close.fields.reverse.map Marked.text

/-- A number that an option gives, or what is wrong with it. -/
def optionNumber (name : String) (value : Option Text) (what : String) :
    Act (Except Nat (Option Nat)) := do
  match value with
  | none => return .ok none
  | some t =>
    match wholeNumber? t with
    | some n =>
      if n < 0 then
        return .error (← failAs name 1 (t ++ ": ".toList ++ what.toList))
      else return .ok (some n.toNat)
    | none => return .error (← failAs name 1 (t ++ ": ".toList ++ what.toList))

/-- The text that is to be read from a channel, or the status of the failure. -/
def inputText (name : String) (channel : Nat) (isGiven : Bool) : Act (Except Nat Text) := do
  match ← conduitOf? channel with
  | none =>
    if isGiven then return .error (← failAs name 1
      (shown channel ++ ": invalid file descriptor: Bad file descriptor".toList))
    else return .error (← failAs name 1 "read error: 0: Bad file descriptor".toList)
  | some (_, .directory) =>
    return .error (← failAs name 1 ("read error: ".toList ++ shown channel ++
      ": Is a directory".toList))
  | some _ => return .ok ((← peekAll channel).getD [])

/-- Gives values to variables, up to the first that cannot have one. -/
def assignValues (command : String) : List (Text × Text) → Act Bool
  | [] => return true
  | (name, value) :: rest => do
    if ← assignFor command name value then assignValues command rest else return false

/-- Gives what has been read to the variables that are named. -/
def giveRead (f : Flags) (r : ReadLine) : Act Bool := do
  let s ← get
  match f.value? 'a' with
  | some name =>
    if !isVariableName name then
      complain ("read: ".toList ++ citedText name ++ ": not a valid identifier".toList)
      return false
    assignMembers name false ((lineFields s.separators r.line).map .next)
    return true
  | none =>
    if f.others.isEmpty then assignFor "read" "REPLY".toList r.line.text
    else
      let values := if f.has 'N' then
          r.line.text :: List.replicate (f.others.length - 1) []
        else lineValues s.separators f.others.length r.line
      let values := values ++ List.replicate (f.others.length - values.length) []
      assignValues "read" (f.others.zip values)

/-- The command `read`. -/
def readVariables : Utility := fun arguments ↦ do
  let s ← get
  withFlags "read" (if s.isStandard then "r" else "ers")
      (if s.isStandard then "p" else "adinNptu") arguments fun f ↦ do
    if s.isStandard ∧ f.others.isEmpty then return ← failAs "read" 2 "arg count".toList
    let isTime (t : Text) : Bool := !t.isEmpty && t.all fun c ↦ c.isDigit || c = '.'
    if let some t := f.value? 't' then
      if !isTime t then return ← failAs "read" 1 (t ++ ": invalid timeout specification".toList)
    match ← optionNumber "read" (f.value? 'u') "invalid file descriptor specification",
        ← optionNumber "read" ((f.value? 'N').or (f.value? 'n')) "invalid number" with
    | .error status, _ => return status
    | _, .error status => return status
    | .ok channel, .ok count =>
      match f.others.head? with
      | some name =>
        if !isPlaceName name then
          return ← failAs "read" (if s.isStandard then 2 else 1) (if s.isStandard then
            name ++ ": bad variable name".toList
            else citedText name ++ ": not a valid identifier".toList)
      | none => pure ()
      if f.value? 't' = some ['0'] then return 0
      match ← inputText "read" (channel.getD 0) channel.isSome with
      | .error status => return status
      | .ok t =>
        let stop : Option Char := if f.has 'N' then none
          else match f.value? 'd' with
            | some [] => some '\x00'
            | some (c :: _) => some c
            | none => some '\n'
        let r := readFrom ⟨stop, count, f.has 'r'⟩ (t.length + 1) [] 0 0 t
        skipOctets (channel.getD 0) r.taken
        if ← giveRead f r then return if r.complete then 0 else 1 else return 1

/-- The pieces of a text up to each of a character, which stays at their ends. -/
def piecesUpTo (stop : Char) (t : Text) : List Text :=
  if stop = '\n' then Text.physicalLines t
  else
    let parts := Text.fields stop t
    let last := (parts.getLast?).getD []
    parts.dropLast.map (· ++ [stop]) ++ (if last.isEmpty then [] else [last])

section Lines

variable (run : Runner)

/-- The command `mapfile`, which is called `readarray` too. -/
def readLines (command : String) : Utility := fun arguments ↦
  withFlags command "t" "dnOsuCc" arguments fun f ↦ do
    match ← optionNumber command (f.value? 'u') "invalid file descriptor specification",
        ← optionNumber command (f.value? 'n') "invalid line count",
        ← optionNumber command (f.value? 's') "invalid line count",
        ← optionNumber command (f.value? 'O') "invalid array origin",
        ← optionNumber command (f.value? 'c') "invalid callback quantum" with
    | .ok channel, .ok count, .ok skipped, .ok origin, .ok quantum =>
      let name := f.others.headD "MAPFILE".toList
      if !isVariableName name then
        return ← failAs command 1 (citedText name ++ ": not a valid identifier".toList)
      if ((← get).variableOf? name).any Variable.isMap then
        return ← failAs command 1 (name ++ ": not an indexed array".toList)
      match ← inputText command (channel.getD 0) channel.isSome with
      | .error status => return status
      | .ok t =>
        let stop := match f.value? 'd' with
          | some [] => '\x00'
          | some (c :: _) => c
          | none => '\n'
        let pieces := piecesUpTo stop t
        let skip := skipped.getD 0
        let wanted := match count.filter (0 < ·) with
          | some n => pieces.take (skip + n)
          | none => pieces
        skipOctets (channel.getD 0) (sumOf (wanted.map List.length))
        let trim (t : Text) : Text := if f.has 't' ∧ t.getLast? = some stop then t.dropLast else t
        let values := (wanted.drop skip).map trim
        let first := origin.getD 0
        if origin.isNone then assignMembers name false []
        let callback := f.value? 'C'
        let every := max 1 ((quantum.filter (0 < ·)).getD 5000)
        match callback with
        | none =>
          if origin.isNone then assignMembers name false (values.map .next)
          else for (t, i) in values.zipIdx do
            assignTo name (some (shown (first + i))) false t
        | some source =>
          for (t, i) in values.zipIdx do
            if (i + 1) % every = 0 then
              let line := source ++ ' ' :: shown (first + i) ++ ' ' :: singleQuoted t
              runSource run Place.inner [] 1 line
            assignTo name (some (shown (first + i))) false t
        return 0
    | .error status, _, _, _, _ => return status
    | _, .error status, _, _, _ => return status
    | _, _, .error status, _, _ => return status
    | _, _, _, .error status, _ => return status
    | _, _, _, _, .error status => return status

end Lines

end CommandScript.Shell
