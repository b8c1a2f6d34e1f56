import CommandScript.Shell.Program.Basic

/-!
# Programs that write parts of texts

The first or the last lines of texts, chosen columns of lines, and texts cut into files.
-/
namespace CommandScript.Shell

/-! ### The two ends of a text -/

/-- How much of a text is meant, and in which units. -/
structure Extent where
  /-- How many units. -/
  count : Nat
  /-- Whether the units are octets and not lines. -/
  octets : Bool
  /-- Whether the number counts from the other end than it usually does. -/
  turned : Bool

/-- The parts that a count is about: octets, or lines that end with a character. -/
def unitsOf (octets : Bool) (ending : Char) (t : Text) : List Text :=
  if octets then t.map ([·]) else wholeLines ending t

/-- The options of a program for one end of texts. -/
def endForm (name : String) (others : List (String × Char)) (plain valued : String) :
    OptionForm where
  name := name
  plain := "qvz" ++ plain
  valued := "cn" ++ valued
  long := [("bytes", 'c'), ("lines", 'n'), ("quiet", 'q'), ("silent", 'q'), ("verbose", 'v'),
    ("zero-terminated", 'z')] ++ others

/-- Arguments where a number behind a hyphen in the first one stands for an option of its own. -/
def withCountOption : List Text → List Text
  | ('-' :: t) :: rest =>
    let digits := t.takeWhile Char.isDigit
    let letters := t.drop digits.length
    if digits.isEmpty then ('-' :: t) :: rest
    else if letters.contains 'c' then ['-', 'c'] :: digits :: rest
    else ['-', 'n'] :: digits :: rest
  | arguments => arguments

/-- What options say about how much is meant, where a sign turns a count around. -/
def extentOf (form : OptionForm) (sign : Char) (c : Choices) : Except Text Extent :=
  let octets := c.last? "cn" = some 'c'
  match c.value? (if octets then 'c' else 'n') with
  | none => .ok ⟨10, false, false⟩
  | some t =>
    let turned := t.head? = some sign
    let digits := if t.head? = some '-' ∨ t.head? = some '+' then t.drop 1 else t
    match sizedNumber? digits with
    | some n => .ok ⟨n, octets, turned⟩
    | none => .error (form.name.toList ++ ": invalid number of ".toList ++
        (if octets then "bytes" else "lines").toList ++ ": ".toList ++ curled t)

/-- Writes a part of each of some texts, with their names over them where that is asked for. How
many octets are taken from the input is a matter of how they are counted. -/
def writeEnds (form : OptionForm) (c : Choices) (part : Text → Text) (keepsRest : Bool) :
    Act Nat := do
  let names := orInput c.others
  let shows := c.last? "qv" = some 'v' || (c.last? "qv" != some 'q' && 1 < names.length)
  let mut written : List Text := []
  let mut status := 0
  for name in names do
    let title := if name = ['-'] then "standard input".toList else name
    let heading := if shows then
        (if written.isEmpty then [] else ['\n']) ++ "==> ".toList ++ title ++ " <==\n".toList
      else []
    match ← readInput name with
    | .ok t =>
      let chosen := part t
      if keepsRest ∧ name = ['-'] then unread 0 (t.length - chosen.length)
      written := (heading ++ chosen) :: written
    | .error .isDirectory =>
      tellOf form.name ("error reading ".toList ++ quotedName title ++ ": Is a directory".toList)
      written := heading :: written
      status := 1
    | .error f =>
      tellOf form.name ("cannot open ".toList ++ quotedName name ++ " for reading: ".toList ++
        f.words)
      status := 1
  put written.reverse.flatten
  return status

/-- The program `head`. -/
def writeStart : Utility :=
  let form := endForm "head" [] "" ""
  fun arguments ↦ form.choose (withCountOption arguments) fun c ↦ do
    match extentOf form '-' c with
    | .error message =>
      tellLine message
      return 1
    | .ok x =>
      let part (t : Text) : Text :=
        let units := unitsOf x.octets (if c.has 'z' then '\x00' else '\n') t
        (units.take (if x.turned then units.length - x.count else x.count)).flatten
      writeEnds form c part !x.turned

/-- The program `tail`. -/
def writeRest : Utility :=
  let form := endForm "tail"
    [("follow", 'f'), ("retry", 'F'), ("sleep-interval", 's'), ("pid", 'p')] "fF" "sp"
  fun arguments ↦
    let arguments := match arguments with
      | ('+' :: t) :: rest => if isDigits t then ['-', 'n'] :: ('+' :: t) :: rest else arguments
      | arguments => withCountOption arguments
    form.choose arguments fun c ↦ do
      match extentOf form '+' c with
      | .error message =>
        tellLine message
        return 1
      | .ok x =>
        let part (t : Text) : Text :=
          let units := unitsOf x.octets (if c.has 'z' then '\x00' else '\n') t
          (units.drop (if x.turned then x.count - 1 else units.length - x.count)).flatten
        writeEnds form c part false

/-! ### Columns -/

/-- A range of columns, which may go on to the end. -/
abbrev ColumnRange := Nat × Option Nat

/-- The ranges that a list of columns names. -/
def readColumns (fields : Bool) (t : Text) : Except Text (List ColumnRange) :=
  let numbered : Text := if fields then "fields are numbered from 1".toList
    else "byte/character positions are numbered from 1".toList
  let wrong (t : Text) : Except Text ColumnRange := .error
    ((if fields then "invalid field value " else "invalid byte/character position ").toList ++
      curled t)
  (Text.fields ',' (t.map fun c ↦ if isShellBlank c then ',' else c)).mapM fun part ↦
    match Text.fields '-' part with
    | [single] =>
      if single.isEmpty then .error numbered
      else match naturalNumber? single with
        | some 0 => .error numbered
        | some n => .ok (n, some n)
        | none => wrong single
    | [first, last] =>
      if first.isEmpty ∧ last.isEmpty then .error "invalid range with no endpoint: -".toList
      else match (if first.isEmpty then some 1 else naturalNumber? first),
          (if last.isEmpty then some none else (naturalNumber? last).map some) with
        | some 0, _ => .error numbered
        | some n, some none => .ok (n, none)
        | some n, some (some m) =>
          if m = 0 ∧ first.isEmpty then .error "invalid decreasing range".toList
          else if m < n then .error "invalid decreasing range".toList else .ok (n, some m)
        | _, _ => wrong part
    | _ => wrong part

/-- Ranges in order, where those that meet are one. -/
def mergeRanges : List ColumnRange → List ColumnRange
  | [] => []
  | [r] => [r]
  | (a, none) :: _ => [(a, none)]
  | (a, some b) :: (a', e) :: rest =>
    if a' ≤ b then
      mergeRanges ((a, match e with | some b' => some (max b b') | none => none) :: rest)
    else (a, some b) :: mergeRanges ((a', e) :: rest)
termination_by ranges => ranges.length

/-- The ranges of the columns that are in none of some ranges, from a column on. -/
def otherRanges : Nat → List ColumnRange → List ColumnRange
  | n, [] => [(n, none)]
  | n, (a, some b) :: rest =>
    (if n < a then [(n, some (a - 1))] else []) ++ otherRanges (b + 1) rest
  | n, (a, none) :: _ => if n < a then [(n, some (a - 1))] else []

/-- What stands in ranges of columns, range by range. -/
def columnsIn {α : Type} (ranges : List ColumnRange) (items : List α) : List (List α) :=
  (ranges.map fun (a, b) ↦ match b with
    | some b => (items.take b).drop (a - 1)
    | none => items.drop (a - 1)).filter (!·.isEmpty)

/-- The options of `cut`. -/
def columnForm : OptionForm := {
  name := "cut", plain := "nsz", valued := "bcdfO"
  long := [("bytes", 'b'), ("characters", 'c'), ("delimiter", 'd'), ("fields", 'f'),
    ("complement", 'C'), ("only-delimited", 's'), ("output-delimiter", 'O'),
    ("zero-terminated", 'z')] }

/-- A line without the columns that are not in ranges. -/
def cutLine (c : Choices) (ranges : List ColumnRange) (line : Text) : Option Text :=
  if c.has 'f' then
    let separator := ((c.value? 'd').getD ['\t']).headD '\x00'
    if line.contains separator then
      some (((c.value? 'O').getD [separator]).intercalate
        (columnsIn ranges (Text.fields separator line)).flatten)
    else if c.has 's' then none else some line
  else some (((c.value? 'O').getD []).intercalate (columnsIn ranges line))

/-- The program `cut`. -/
def writeColumns : Utility := fun arguments ↦ columnForm.choose arguments fun c ↦ do
  let lists := c.given.filter fun e ↦ "bcf".toList.contains e.1
  match lists with
  | [] => columnForm.misuse "you must specify a list of bytes, characters, or fields".toList
  | [(_, some t)] =>
    let byFields := c.has 'f'
    if (c.value? 'd').any fun t ↦ 1 < t.length then
      columnForm.misuse "the delimiter must be a single character".toList
    else if c.has 'd' ∧ !byFields then
      columnForm.misuse
        "an input delimiter may be specified only when operating on fields".toList
    else if c.has 's' ∧ !byFields then
      columnForm.misuse ("suppressing non-delimited lines makes sense\n\t".toList ++
        "only when operating on fields".toList)
    else match readColumns byFields t with
      | .error message => columnForm.misuse message
      | .ok ranges =>
        let ranges := mergeRanges (ranges.mergeSort fun a b ↦ a.1 ≤ b.1)
        let ranges := if c.has 'C' then otherRanges 1 ranges else ranges
        let ending := if c.has 'z' then '\x00' else '\n'
        let (inputs, isWhole) ← readInputs "cut" fileFault c.others
        put (inputs.flatMap fun e ↦ (splitLines ending e.2).1.flatMap fun line ↦
          ((cutLine c ranges line).map (· ++ [ending])).getD [])
        return if isWhole then 0 else 1
  | _ => columnForm.misuse "only one list may be specified".toList

/-! ### Pieces -/

/-- The letters behind a name that number the pieces of a text, in digits of a base of which the
greatest one in front asks for one digit more. -/
def pieceSuffix (base : Nat) (digit : Nat → Char) : Nat → Nat → Nat → Text
  | 0, _, _ => []
  | fuel + 1, width, n =>
    let held := Nat.pow base width - Nat.pow base (width - 1)
    if n < held then
      (List.range width).reverse.map fun place ↦ digit (n / Nat.pow base place % base)
    else digit (base - 1) :: pieceSuffix base digit fuel (width + 1) (n - held)

/-- Items put together in lists of a length. -/
def groupsOf {α : Type} (length : Nat) : Nat → List α → List (List α)
  | 0, _ => []
  | _, [] => []
  | n + 1, items => items.take length :: groupsOf length n (items.drop length)

/-- Lines put together as long as they have no more octets than a size. -/
def linesWithin (size : Nat) : Text → List Text → List Text
  | held, [] => if held.isEmpty then [] else [held]
  | held, line :: rest =>
    if held.length + line.length ≤ size then linesWithin size (held ++ line) rest
    else if held.isEmpty then
      (groupsOf size (line.length + 1) line) ++ linesWithin size [] rest
    else
      let parts := groupsOf size (line.length + 1) line
      held :: parts.dropLast ++ linesWithin size (parts.getLast?.getD []) rest

/-- The pieces into which options cut a text. -/
def piecesOf (c : Choices) (t : Text) : Except Text (List Text) :=
  let ending := ((c.value? 't').getD ['\n']).headD '\n'
  let number (letter : Char) (kind : String) (act : Nat → List Text) : Except Text (List Text) :=
    match (c.value? letter).bind sizedNumber? with
    | some 0 => .error ("invalid number of ".toList ++ kind.toList ++ ": ".toList ++
        curled ((c.value? letter).getD []))
    | some n => .ok (act n)
    | none => .error ("invalid number of ".toList ++ kind.toList ++ ": ".toList ++
        curled ((c.value? letter).getD []))
  match c.last? "lbCn" with
  | some 'b' => number 'b' "bytes" fun n ↦ groupsOf n (t.length + 1) t
  | some 'C' => number 'C' "bytes" fun n ↦ linesWithin n [] (wholeLines ending t)
  | some 'n' => number 'n' "chunks" fun n ↦
      (List.range n).map fun i ↦
        (t.take (if i + 1 = n then t.length else t.length / n * (i + 1))).drop (t.length / n * i)
  | some _ => number 'l' "lines" fun n ↦
      (groupsOf n (t.length + 1) (wholeLines ending t)).map List.flatten
  | none => .ok ((groupsOf 1000 (t.length + 1) (wholeLines ending t)).map List.flatten)

/-- The program `split`. -/
def writePieces : Utility :=
  let form : OptionForm := {
    name := "split", plain := "deux", valued := "abClntA", optional := "DX"
    long := [("suffix-length", 'a'), ("additional-suffix", 'A'), ("bytes", 'b'),
      ("line-bytes", 'C'), ("numeric-suffixes", 'D'), ("hex-suffixes", 'X'),
      ("elide-empty-files", 'e'), ("lines", 'l'), ("number", 'n'), ("separator", 't'),
      ("unbuffered", 'u'), ("verbose", 'v')] }
  fun arguments ↦ form.choose arguments fun c ↦ do
    match c.others with
    | _ :: _ :: extra :: _ => form.misuse ("extra operand ".toList ++ quotedName extra)
    | names =>
      let source := names.headD ['-']
      let start := (names.drop 1).headD ['x']
      match ← readInput source with
      | .error f =>
        if f = .isDirectory then
          failOf "split" 1 ("error reading ".toList ++ quotedName source ++ ": ".toList ++ f.words)
        else
          failOf "split" 1 ("cannot open ".toList ++ quotedName source ++
            " for reading: ".toList ++ f.words)
      | .ok t =>
        match piecesOf c t with
        | .error message => failOf "split" 1 message
        | .ok pieces =>
          let pieces := if c.has 'e' then pieces.filter (!·.isEmpty) else pieces
          let (base, digit) : Nat × (Nat → Char) :=
            if c.has 'd' ∨ c.has 'D' then (10, Nat.digitChar)
            else if c.has 'x' ∨ c.has 'X' then (16, Nat.digitChar)
            else (26, fun n ↦ Char.ofNat ('a'.toNat + n))
          let first := (((c.value? 'D').or (c.value? 'X')).bind naturalNumber?).getD 0
          for (piece, i) in pieces.zipIdx first do
            let suffix := match (c.value? 'a').bind naturalNumber? with
              | some width => (List.range width).reverse.map fun place ↦
                  digit (i / Nat.pow base place % base)
              | none => pieceSuffix base digit (i + 2) 2 i
            let name := start ++ suffix ++ (c.value? 'A').getD []
            match ← writeFile .writing name piece with
            | .ok () => pure ()
            | .error f => return ← failOf "split" 1 (fileFault name f)
          return 0

end CommandScript.Shell
