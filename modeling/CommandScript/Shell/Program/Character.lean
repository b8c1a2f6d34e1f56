import CommandScript.Shell.CharacterSet
import CommandScript.Shell.Program.Basic

/-!
# Programs that change characters

Characters replaced by others, removed or written once, and tabs turned into blanks and back.
-/
namespace CommandScript.Shell

/-! ### Arrays of characters -/

/-- A part of an array of characters. -/
inductive ArrayPart where
  /-- Characters in a row. -/
  | row (t : Text)
  /-- The characters of a class, by its name. -/
  | named (name : Text)
  /-- A character as often as it takes to fill an array. -/
  | fill (c : Char)
  deriving DecidableEq, Repr

/-- All octets. -/
def allOctets : Text := (List.range 256).map Char.ofNat

/-- The octets of a class. -/
def octetsNamed? (name : Text) : Option Text :=
  if name = "word".toList then none
  else (CharacterSet.classes.lookup (String.ofList name)).map fun test ↦
    allOctets.filter fun c ↦ isAscii c && test c

/-- The letters after a backslash that stand for other characters. -/
def arrayEscapes : List (Char × Char) := [
  ('a', '\x07'), ('b', '\x08'), ('f', '\x0C'), ('n', '\n'), ('r', '\r'), ('t', '\t'), ('v', '\x0B')]

/-- The characters of an array, each with whether a backslash stands before it. -/
def arrayCharacters : Nat → Text → List (Char × Bool)
  | 0, _ => []
  | _, [] => []
  | _, ['\\'] => [('\\', false)]
  | n + 1, '\\' :: c :: rest =>
    let digits := ((c :: rest).take 3).takeWhile fun d ↦ '0' ≤ d && d ≤ '7'
    let value (t : Text) : Nat := t.foldl (fun n d ↦ n * 8 + (d.toNat - '0'.toNat)) 0
    let digits := if 255 < value digits then digits.take 2 else digits
    if digits.isEmpty then ((arrayEscapes.lookup c).getD c, true) :: arrayCharacters n rest
    else (Char.ofNat (value digits), true) :: arrayCharacters n ((c :: rest).drop digits.length)
  | n + 1, c :: rest => (c, false) :: arrayCharacters n rest

/-- What stands between an opening bracket with a sign and that sign with a closing bracket, and
what follows it. -/
def bracketed? (sign : Char) : List (Char × Bool) → Option (Text × List (Char × Bool))
  | [] => none
  | (c, escaped) :: rest =>
    if c = sign ∧ !escaped ∧ rest.head? = some (']', false) then some ([], rest.drop 1)
    else (bracketed? sign rest).map fun (t, after) ↦ (c :: t, after)

/-- How often a character is to stand, as it is said between an asterisk and a closing bracket, and
what follows that. -/
def repetition? (t : List (Char × Bool)) : Option (Nat × List (Char × Bool)) :=
  let digits := (t.takeWhile fun e ↦ e.1.isDigit && !e.2).map Prod.fst
  match t.drop digits.length with
  | (']', false) :: after =>
    let n := if digits.head? = some '0' then
        digits.foldl (fun n d ↦ n * 8 + (d.toNat - '0'.toNat)) 0
      else Text.digitsValue digits
    some (n, after)
  | _ => none

/-- The parts that the characters of an array spell. -/
def arrayParts : Nat → List (Char × Bool) → Except Text (List ArrayPart)
  | 0, _ => .ok []
  | _, [] => .ok []
  | n + 1, (c, escaped) :: rest =>
    let more (p : ArrayPart) (rest : List (Char × Bool)) : Except Text (List ArrayPart) :=
      (arrayParts n rest).map (p :: ·)
    let plain : Except Text (List ArrayPart) := match rest with
      | ('-', false) :: (last, _) :: after =>
        if last < c then
          .error ("range-endpoints of '".toList ++ [c, '-', last] ++
            "' are in reverse collating sequence order".toList)
        else more (.row ((List.range (last.toNat + 1 - c.toNat)).map fun i ↦
          Char.ofNat (c.toNat + i))) after
      | rest => more (.row [c]) rest
    if c != '[' ∨ escaped then plain
    else match rest with
      | (':', false) :: inner =>
        match bracketed? ':' inner with
        | some (name, after) =>
          if (octetsNamed? name).isSome then more (.named name) after
          else .error ("invalid character class ".toList ++ curled name)
        | none => plain
      | ('=', false) :: inner =>
        match bracketed? '=' inner with
        | some ([single], after) => more (.row [single]) after
        | some (t, _) =>
          .error (t ++ ": equivalence class operand must be a single character".toList)
        | none => plain
      | (d, _) :: ('*', false) :: inner =>
        match repetition? inner with
        | some (0, after) => more (.fill d) after
        | some (count, after) => more (.row (List.replicate count d)) after
        | none => plain
      | _ => plain

/-- The parts that a text spells as an array. -/
def readArray (t : Text) : Except Text (List ArrayPart) :=
  let cs := arrayCharacters (t.length + 1) t
  arrayParts (cs.length + 1) cs

/-- The characters of parts that together fill an array of a length. -/
def charactersOf (length : Nat) (parts : List ArrayPart) : Text :=
  let given := sumOf (parts.map fun p ↦ match p with
    | .row t => t.length
    | .named name => ((octetsNamed? name).getD []).length
    | .fill _ => 0)
  parts.flatMap fun p ↦ match p with
    | .row t => t
    | .named name => (octetsNamed? name).getD []
    | .fill c => List.replicate (length - given) c

/-- A text in which a row of one of some characters is written once, after a last character. -/
def squeezed (test : Char → Bool) (last : Option Char) : Text → Text
  | [] => []
  | c :: rest =>
    if last = some c ∧ test c then squeezed test last rest
    else c :: squeezed test (some c) rest

/-- What the octets of the first array become by the second one. -/
def replacementTable (first second : Text) : Array Char :=
  let start : Array Char := allOctets.toArray
  let last := second.getLast?.getD '\x00'
  (first.zipIdx.foldl (fun table (c, i) ↦ table.set! c.toNat (second.getD i last)) start)

/-- The program `tr`. -/
def changeCharacters : Utility :=
  let form : OptionForm := {
    name := "tr", plain := "cCdst", inFront := true
    long := [("complement", 'c'), ("delete", 'd'), ("squeeze-repeats", 's'),
      ("truncate-set1", 't')] }
  fun arguments ↦ form.choose arguments fun c ↦ do
    let deletes := c.has 'd'
    let squeezes := c.has 's'
    let needsTwo := deletes == squeezes
    let most := if deletes ∧ !squeezes then 1 else 2
    match c.others with
    | [] => form.misuse "missing operand".toList
    | first :: others =>
      if others.isEmpty ∧ needsTwo then
        form.misuse ("missing operand after ".toList ++ curled first ++ "\n".toList ++
          (if deletes then "Two strings must be given when both deleting and squeezing repeats."
            else "Two strings must be given when translating.").toList)
      else if most ≤ others.length then
        form.misuse ("extra operand ".toList ++ curled (others.getD (most - 1) []) ++
          (if most = 1 ∧ others.length = 1 then
            "\nOnly one string may be given when deleting without squeezing repeats.".toList
          else []))
      else match readArray first, readArray (others.headD []) with
        | .error message, _ => failOf "tr" 1 message
        | _, .error message => failOf "tr" 1 message
        | .ok parts, .ok parts' =>
          let plain := charactersOf 0 parts
          let first := if c.has 'c' ∨ c.has 'C' then allOctets.filter (!plain.contains ·) else plain
          let second := charactersOf first.length parts'
          let first := if c.has 't' then first.take second.length else first
          let translates := !deletes && !others.isEmpty
          if translates ∧ second.isEmpty ∧ !c.has 't' then
            failOf "tr" 1 "when not truncating set1, string2 must be non-empty".toList
          else
            let member := allOctets.foldl (fun (table : Array Bool) o ↦
              table.push (first.contains o)) #[]
            let within (o : Char) : Bool := member.getD o.toNat false
            match ← readAll 0 with
            | .error f => failOf "tr" 1 ("read error: ".toList ++ f.words)
            | .ok t =>
              let t := if deletes then t.filter (!within ·)
                else if translates ∧ !second.isEmpty then
                  let table := replacementTable first second
                  t.map fun o ↦ table.getD o.toNat o
                else t
              let last := if others.isEmpty then first else second
              put (if squeezes then squeezed (last.contains ·) none t else t)
              return 0

/-! ### Tabs -/

/-- The stops of tabs: those that are named, and the distance of those after them. -/
structure TabStops where
  /-- The columns of the stops that are named. -/
  named : List Nat
  /-- The distance of the stops after the last one, or nothing if there are no more. -/
  every : Option Nat

namespace TabStops

/-- The stops that a list of numbers names. A single number is the distance of all stops. -/
def ofText? (t : Text) : Option TabStops :=
  let parts := (Text.fields ',' (t.map fun c ↦ if c = ' ' then ',' else c)).filter (!·.isEmpty)
  match parts.reverse with
  | [] => none
  | ('/' :: last) :: rest =>
    match rest.reverse.mapM naturalNumber?, naturalNumber? last with
    | some named, some n => if n = 0 then none else some ⟨named, some n⟩
    | _, _ => none
  | _ =>
    match parts.mapM naturalNumber? with
    | some [n] => if n = 0 then none else some ⟨[], some n⟩
    | some named => if named.contains 0 then none else some ⟨named, none⟩
    | none => none

/-- The next stop after a column, if there is one. -/
def next? (s : TabStops) (column : Nat) : Option Nat :=
  match s.named.find? (column < ·) with
  | some stop => some stop
  | none => s.every.map fun n ↦ (column / n + 1) * n

end TabStops

/-- A line with blanks in the place of tabs, from a column on. -/
def expandLine (s : TabStops) (onlyFirst : Bool) : Nat → Bool → Text → Text
  | _, _, [] => []
  | column, atStart, c :: rest =>
    if c = '\t' ∧ (atStart ∨ !onlyFirst) then
      let stop := (s.next? column).getD (column + 1)
      List.replicate (stop - column) ' ' ++ expandLine s onlyFirst stop atStart rest
    else if c = '\x08' then c :: expandLine s onlyFirst (column - 1) atStart rest
    else c :: expandLine s onlyFirst (column + 1) (atStart && isShellBlank c) rest

/-- A line with tabs in the place of blanks up to stops, where blanks that have not been written
stand between two columns. -/
def unexpandLine (s : TabStops) (whole : Bool) : Nat → Nat → Bool → Text → Text
  | start, column, _, [] => List.replicate (column - start) ' '
  | start, column, goesOn, c :: rest =>
    if c = ' ' ∧ goesOn then
      let column := column + 1
      if s.next? (column - 1) = some column ∧ (1 < column - start ∨ rest.head? = some '\t' ∨
          rest.head? = some ' ') then
        '\t' :: unexpandLine s whole column column goesOn rest
      else unexpandLine s whole start column goesOn rest
    else if c = '\t' ∧ goesOn then
      let stop := (s.next? column).getD (column + 1)
      '\t' :: unexpandLine s whole stop stop goesOn rest
    else List.replicate (column - start) ' ' ++
      c :: unexpandLine s whole (column + 1) (column + 1) (goesOn && whole) rest

/-- Arguments where a number behind a hyphen stands for an option of the columns of tabs. -/
def withTabOption (arguments : List Text) : List Text := arguments.map fun t ↦ match t with
  | '-' :: c :: rest => if c.isDigit then "-t".toList ++ c :: rest else t
  | t => t

/-- Changes the lines of texts by the stops of tabs. -/
def changeTabs (form : OptionForm) (change : TabStops → Choices → Text → Text) : Utility :=
  fun arguments ↦ form.choose (withTabOption arguments) fun c ↦ do
    let given := [','].intercalate (c.values 't')
    match if given.isEmpty then some (⟨[], some 8⟩ : TabStops) else TabStops.ofText? given with
    | none =>
      if given.contains '0' ∧ naturalNumber? given = some 0 then
        failOf form.name 1 "tab size cannot be 0".toList
      else failOf form.name 1 ("tab size contains invalid character(s): ".toList ++
        curled (given.dropWhile fun d ↦ d.isDigit || d = ',' || d = ' '))
    | some stops =>
      filterInputs form.name c.others fun t ↦ (wholeLines '\n' t).flatMap (change stops c)

/-- The program `expand`. -/
def tabsToBlanks : Utility :=
  changeTabs {
    name := "expand", plain := "i", valued := "t", long := [("initial", 'i'), ("tabs", 't')] }
    fun stops c line ↦ expandLine stops (c.has 'i') 0 true line

/-- The program `unexpand`. -/
def blanksToTabs : Utility :=
  changeTabs { name := "unexpand", plain := "aF", valued := "t"
               long := [("all", 'a'), ("first-only", 'F'), ("tabs", 't')] }
    fun stops c line ↦
      unexpandLine stops ((c.has 'a' || c.has 't') && !c.has 'F') 0 0 true line

end CommandScript.Shell
