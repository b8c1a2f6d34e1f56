import CommandScript.Shell.Program.Order

/-!
# Programs on lines of several texts

Lines of two texts in order are compared or joined by a field; lines of several texts are put side
by side; and items are put into an order that relations between them ask for.
-/
namespace CommandScript.Shell

/-! ### Two texts in order -/

/-- Reads two files, or tells which one cannot be read. -/
def readPair (program : String) (first second : Text) : Act (Option (Text × Text)) := do
  match ← readInput first with
  | .error f =>
    tellOf program (fileFault first f)
    return none
  | .ok t =>
    match ← readInput second with
    | .error f =>
      tellOf program (fileFault second f)
      return none
    | .ok t' => return some (t, t')

/-- Goes on with the two files that a program is given, or tells that there are more or fewer. -/
def withPair (form : OptionForm) (names : List Text) (act : Text → Text → Act Nat) : Act Nat :=
  match names with
  | [] => form.misuse "missing operand".toList
  | [one] => form.misuse ("missing operand after ".toList ++ curled one)
  | [first, second] => act first second
  | _ :: _ :: extra :: _ => form.misuse ("extra operand ".toList ++ curled extra)

/-- In which of two texts a line is. -/
inductive Side where
  /-- In the first one only. -/
  | first
  /-- In the second one only. -/
  | second
  /-- In both. -/
  | both
  deriving DecidableEq, Repr

/-- The lines of two texts in order, with where they are. -/
def mergeSides : Nat → List Text → List Text → List (Side × Text)
  | 0, _, _ => []
  | _, as, [] => as.map fun line ↦ (.first, line)
  | _, [], bs => bs.map fun line ↦ (.second, line)
  | n + 1, a :: as, b :: bs =>
    match compareOctets a b with
    | .eq => (.both, a) :: mergeSides n as bs
    | .lt => (.first, a) :: mergeSides n as (b :: bs)
    | .gt => (.second, b) :: mergeSides n (a :: as) bs

/-- Whether lines are in order. -/
def isSorted : List Text → Bool
  | a :: b :: rest => compareOctets a b != .gt && isSorted (b :: rest)
  | _ => true

/-- The program `comm`. -/
def compareLines : Utility :=
  let form : OptionForm := {
    name := "comm", plain := "123znkt", valued := "d"
    long := [("output-delimiter", 'd'), ("total", 't'), ("zero-terminated", 'z'),
      ("check-order", 'k'), ("nocheck-order", 'n')] }
  fun arguments ↦ form.choose arguments fun c ↦ withPair form c.others fun first second ↦ do
    let ending := if c.has 'z' then '\x00' else '\n'
    match ← readPair "comm" first second with
    | none => return 1
    | some (t, t') =>
      let (as, bs) := ((splitLines ending t).1, (splitLines ending t').1)
      let found := mergeSides (as.length + bs.length + 1) as bs
      let tab := (c.value? 'd').getD ['\t']
      let tab := if tab.isEmpty then ['\x00'] else tab
      let column (hidden : List Char) : Text := hidden.flatMap fun o ↦ if c.has o then [] else tab
      let row (e : Side × Text) : Text := match e.1 with
        | .first => if c.has '1' then [] else e.2 ++ [ending]
        | .second => if c.has '2' then [] else column ['1'] ++ e.2 ++ [ending]
        | .both => if c.has '3' then [] else column ['1', '2'] ++ e.2 ++ [ending]
      let count (side : Side) : Text := shown (found.countP fun e ↦ e.1 = side)
      let totals := [count .first, count .second, count .both, "total".toList]
      put (found.flatMap row ++ if c.has 't' then tab.intercalate totals ++ [ending] else [])
      let isChecked := !c.has 'n' && (c.has 'k' || found.any fun e ↦ e.1 != .both)
      let wrong := [(1, as), (2, bs)].filter fun e ↦ isChecked && !isSorted e.2
      for (n, _) in wrong do
        tellOf "comm" ("file ".toList ++ shown n ++ " is not in sorted order".toList)
      if !wrong.isEmpty then
        if !c.has 'k' then tellOf "comm" "input is not in sorted order".toList
        return 1
      return 0

/-! ### Joining -/

/-- The fields of a line, between single separators or rows of blanks. -/
def joinFields (separator : Option Char) (line : Text) : List Text :=
  match separator with
  | some c => Text.fields c line
  | none =>
    (Text.fields ' ' (line.map fun c ↦ if isShellBlank c then ' ' else c)).filter (!·.isEmpty)

/-- How lines of two texts are joined. -/
structure JoinRule where
  /-- What separates fields, if it is not blanks. -/
  separator : Option Char
  /-- The fields of the two texts that are compared, from one on. -/
  fields : Nat × Nat
  /-- The fields of a joined line: the text and the number of each, zero for the shared one. -/
  format : Option (List (Nat × Nat))
  /-- What stands for a field that is not there. -/
  blank : Text
  /-- The texts whose lines are written although nothing fits them. -/
  unpaired : List Nat
  /-- Whether only such lines are written. -/
  onlyUnpaired : Bool
  /-- Whether letters of either case are the same. -/
  eitherCase : Bool
  /-- Whether each joined line has as many fields as the first ones. -/
  isEven : Bool

namespace JoinRule

/-- The field by which lines are compared. -/
def key (r : JoinRule) (field : Nat) (line : List Text) : Text :=
  let t := line.getD (field - 1) []
  if r.eitherCase then t.map Char.toLower else t

/-- The line that two lines make, either of which may lack. -/
def row (r : JoinRule) (counts : Nat × Nat) (a b : Option (List Text)) : Text :=
  let shared : Text := match a, b with
    | some line, _ => line.getD (r.fields.1 - 1) []
    | none, some line => line.getD (r.fields.2 - 1) []
    | none, none => []
  let filled (t : Text) : Text := if t.isEmpty then r.blank else t
  let others (field count : Nat) (line : Option (List Text)) : List Text := match line with
    | some line => line.eraseIdx (field - 1) |>.map filled
    | none => List.replicate (if r.isEven then count - 1 else 0) r.blank
  let parts : List Text := match r.format with
    | some places => places.map fun (side, n) ↦
        let line := if side = 1 then a else b
        filled (if n = 0 then shared else (line.getD []).getD (n - 1) [])
    | none => filled shared :: others r.fields.1 counts.1 a ++ others r.fields.2 counts.2 b
  [r.separator.getD ' '].intercalate parts

/-- The joined lines of two texts in order. -/
def run (r : JoinRule) (counts : Nat × Nat) : Nat → List (List Text) → List (List Text) → List Text
  | 0, _, _ => []
  | n + 1, as, bs =>
    let lone (side : Nat) (line : List Text) : List Text :=
      if r.unpaired.contains side then
        [if side = 1 then r.row counts (some line) none else r.row counts none (some line)]
      else []
    match as, bs with
    | [], bs => bs.flatMap (lone 2)
    | as, [] => as.flatMap (lone 1)
    | a :: as, b :: bs =>
      let (k, k') := (r.key r.fields.1 a, r.key r.fields.2 b)
      match compareOctets k k' with
      | .lt => lone 1 a ++ run r counts n as (b :: bs)
      | .gt => lone 2 b ++ run r counts n (a :: as) bs
      | .eq =>
        let fits (line : List Text) : Bool := r.key r.fields.1 line = k
        let fits' (line : List Text) : Bool := r.key r.fields.2 line = k
        let rows := (a :: as.takeWhile fits).flatMap fun line ↦
          (b :: bs.takeWhile fits').map fun line' ↦ r.row counts (some line) (some line')
        (if r.onlyUnpaired then [] else rows) ++
          run r counts n (as.dropWhile fits) (bs.dropWhile fits')

/-- The number of the first line whose key comes before that of the line above it. -/
def disorder? (r : JoinRule) (field : Nat) : Nat → List (List Text) → Option Nat
  | n, a :: b :: rest =>
    if compareOctets (r.key field a) (r.key field b) = .gt then some (n + 1)
    else disorder? r field (n + 1) (b :: rest)
  | _, _ => none

end JoinRule

/-- The fields that a text names for joined lines. -/
def readJoinFormat (t : Text) : Except Text (List (Nat × Nat)) :=
  (wordsOf (t.map fun c ↦ if c = ',' then ' ' else c)).mapM fun word ↦
    match word with
    | ['0'] => .ok (0, 0)
    | side :: '.' :: digits =>
      match if side = '1' ∨ side = '2' then naturalNumber? digits else none with
      | some 0 => .error ("invalid field number: ".toList ++ curled digits)
      | some n => .ok (side.toNat - '0'.toNat, n)
      | none => .error ("invalid field specifier: ".toList ++ curled word)
    | _ => .error ("invalid field specifier: ".toList ++ curled word)

/-- The program `join`. -/
def joinLines : Utility :=
  let form : OptionForm := {
    name := "join", plain := "iznkh", valued := "12ajvteo"
    long := [("ignore-case", 'i'), ("zero-terminated", 'z'), ("check-order", 'k'),
      ("nocheck-order", 'n'), ("header", 'h')] }
  fun arguments ↦ form.choose arguments fun c ↦ do
    let field (letter : Char) : Option Nat :=
      match (c.value? letter).or (c.value? 'j') with
      | none => some 1
      | some t => (naturalNumber? t).filter (0 < ·)
    let wrong (letter : Char) : Act Nat := failOf "join" 1 ("invalid field number: ".toList ++
      curled (((c.value? letter).or (c.value? 'j')).getD []))
    let isAuto := c.value? 'o' = some "auto".toList
    match field '1', field '2', if isAuto then none else (c.value? 'o').map readJoinFormat with
    | none, _, _ => wrong '1'
    | _, none, _ => wrong '2'
    | _, _, some (.error message) => failOf "join" 1 message
    | some first, some second, format =>
      withPair form c.others fun name name' ↦ do
        match ← readPair "join" name name' with
        | none => return 1
        | some (t, t') =>
          let ending := if c.has 'z' then '\x00' else '\n'
          let numbers (letter : Char) : List Nat := (c.values letter).filterMap naturalNumber?
          let r : JoinRule := {
            separator := (c.value? 't').bind List.head?, fields := (first, second)
            format := format.bind Except.toOption, blank := (c.value? 'e').getD []
            unpaired := numbers 'a' ++ numbers 'v', onlyUnpaired := c.has 'v'
            eitherCase := c.has 'i', isEven := isAuto }
          let lines := (splitLines ending t).1
          let lines' := (splitLines ending t').1
          let (as, bs) := (lines.map (joinFields r.separator), lines'.map (joinFields r.separator))
          let counts := ((as.headD []).length, (bs.headD []).length)
          let heads : List Text :=
            if c.has 'h' ∧ (!as.isEmpty ∨ !bs.isEmpty) then [r.row counts as.head? bs.head?] else []
          let (as, bs) := if c.has 'h' then (as.drop 1, bs.drop 1) else (as, bs)
          let rows := r.run counts (as.length + bs.length + 1) as bs
          let all := { r with unpaired := [1, 2], onlyUnpaired := true }
          let isChecked := !c.has 'n' &&
            (c.has 'k' || !(all.run counts (as.length + bs.length + 1) as bs).isEmpty)
          let start := if c.has 'h' then 2 else 1
          let faults := [(name, lines, r.disorder? first start as),
            (name', lines', r.disorder? second start bs)].filterMap fun (name, lines, fault) ↦
              fault.map fun n ↦ name ++ ':' :: shown n ++ ": is not sorted: ".toList ++
                lines.getD (n - 1) []
          put ((heads ++ rows).flatMap (· ++ [ending]))
          if isChecked ∧ !faults.isEmpty then
            for message in faults do tellOf "join" message
            if !c.has 'k' then tellOf "join" "input is not in sorted order".toList
            return 1
          return 0

/-! ### Side by side -/

/-- The separators that a text spells, of which the one that is empty is none. -/
def readSeparators : Nat → Text → List Text
  | 0, _ => []
  | _, [] => []
  | n + 1, '\\' :: c :: rest =>
    (if c = '0' then [] else [(arrayEscape c)]) :: readSeparators n rest
  | n + 1, c :: rest => [c] :: readSeparators n rest
where
  /-- What a letter after a backslash stands for. -/
  arrayEscape (c : Char) : Char := match c with
    | 'n' => '\n'
    | 't' => '\t'
    | 'b' => '\x08'
    | 'f' => '\x0C'
    | 'r' => '\r'
    | 'v' => '\x0B'
    | c => c

/-- Texts with separators between them, in turn. -/
def interleave (separators : List Text) : Nat → List Text → Text
  | _, [] => []
  | _, [t] => t
  | i, t :: rest =>
    t ++ (separators.getD (i % separators.length) []) ++ interleave separators (i + 1) rest

/-- Rows of the columns that lists are, as long as one of them goes on. -/
def rowsOf : Nat → List (List Text) → List (List Text)
  | 0, _ => []
  | n + 1, columns =>
    if columns.all List.isEmpty then []
    else columns.map (·.headD []) :: rowsOf n (columns.map (·.drop 1))

/-- The lines of the input that each of a number of columns takes in turn. -/
def dealt (count place : Nat) (lines : List Text) : List Text :=
  (lines.zipIdx.filter fun e ↦ e.2 % count = place).map Prod.fst

/-- The program `paste`. -/
def pasteLines : Utility :=
  let form : OptionForm := {
    name := "paste", plain := "sz", valued := "d"
    long := [("delimiters", 'd'), ("serial", 's'), ("zero-terminated", 'z')] }
  fun arguments ↦ form.choose arguments fun c ↦ do
    let ending := if c.has 'z' then '\x00' else '\n'
    let given := (c.value? 'd').getD ['\t']
    let separators := readSeparators (given.length + 1) given
    let separators := if separators.isEmpty then [[]] else separators
    let names := orInput c.others
    let shared := names.countP (· = ['-'])
    let mut columns : List (List Text) := []
    let mut place := 0
    let mut status := 0
    let input ← if names.contains ['-'] then readAll 0 else pure (.ok [])
    for name in names do
      let found ← if name = ['-'] then pure input else readFile name
      match found with
      | .ok t =>
        let lines := (splitLines ending t).1
        let column := if name != ['-'] then lines
          else if c.has 's' then (if place = 0 then lines else []) else dealt shared place lines
        if name = ['-'] then place := place + 1
        columns := columns ++ [column]
      | .error f =>
        tellOf "paste" (fileFault name f)
        status := 1
        if !c.has 's' then return 1
    let rows := if c.has 's' then columns.map fun column ↦ if column.isEmpty then [[]] else column
      else rowsOf (sumOf (columns.map List.length) + 1) columns
    put (rows.flatMap fun row ↦ interleave separators 0 row ++ [ending])
    return status

/-! ### Orders from relations -/

/-- The items that come next in turn, each of which takes away a relation from those after it. Gives
the items in order and the relations that are left. -/
def drainItems (relations : List (Text × Text)) :
    Nat → List Text → List (Text × Nat) → List Text × List (Text × Nat)
  | 0, _, counts => ([], counts)
  | _, [], counts => ([], counts)
  | n + 1, item :: queue, counts =>
    let after := (relations.reverse.filter fun e ↦ e.1 = item).map Prod.snd
    let (counts, queue) := after.foldl (fun (counts, queue) next ↦
      let left := (counts.lookup next).getD 0 - 1
      (counts.map fun e ↦ if e.1 = next then (next, left) else e,
        if left = 0 then queue ++ [next] else queue)) (counts, queue)
    let (rest, left) := drainItems relations n queue (counts.filter fun e ↦ e.1 != item)
    (item :: rest, left)

/-- Follows relations from an item until one comes again. -/
def loopFrom (relations : List (Text × Text)) : Nat → List Text → Text → List Text
  | 0, seen, _ => seen.reverse
  | n + 1, seen, item =>
    if seen.contains item then (item :: seen.takeWhile (· != item)).reverse.rotateRight
    else match relations.lookup item with
      | some next => loopFrom relations n (item :: seen) next
      | none => seen.reverse

/-- The items in an order that relations ask for, and the loops that have been broken for that. -/
def orderItems : Nat → List Text → List (Text × Text) → List Text × List (List Text)
  | 0, _, _ => ([], [])
  | n + 1, items, relations =>
    let counts := items.map fun item ↦ (item, relations.countP fun e ↦ e.2 = item)
    let queue := (counts.filter fun e ↦ e.2 = 0).map Prod.fst
    let (done, left) := drainItems relations (items.length + relations.length + 1) queue counts
    let items := left.map Prod.fst
    match items with
    | [] => (done, [])
    | first :: _ =>
      let within := relations.filter fun e ↦ items.contains e.1 && items.contains e.2
      let loop := loopFrom within (within.length + 1) [] first
      let broken := (loop.getLast?.getD [], loop.headD [])
      let (rest, loops) := orderItems n items (within.erase broken)
      (done ++ rest, loop :: loops)

/-- Words two by two. -/
def wordPairs? : List Text → Option (List (Text × Text))
  | [] => some []
  | a :: b :: rest => (wordPairs? rest).map ((a, b) :: ·)
  | _ => none

/-- The program `tsort`. -/
def sortRelated : Utility :=
  let form : OptionForm := { name := "tsort" }
  fun arguments ↦ form.choose arguments fun c ↦ do
    match c.others with
    | _ :: extra :: _ => form.misuse ("extra operand ".toList ++ quotedName extra)
    | names =>
      let name := names.headD ['-']
      match ← readInput name with
      | .error f => failOf "tsort" 1 (fileFault name f)
      | .ok t =>
        match wordPairs? (wordsOf t) with
        | none => failOf "tsort" 1 (name ++ ": input contains an odd number of tokens".toList)
        | some pairs =>
          let items := ((wordsOf t).mergeSort fun a b ↦ compareOctets a b != .gt).eraseDups
          let relations := pairs.filter fun e ↦ e.1 != e.2
          let (order, loops) := orderItems (relations.length + 1) items relations
          for loop in loops do
            tellOf "tsort" (name ++ ": input contains a loop:".toList)
            for item in loop do tellOf "tsort" item
          put (ofLines order)
          return if loops.isEmpty then 0 else 1

/-- The program `shuf`. Any order is as good as another, so that of the input is kept. -/
def drawLines : Utility :=
  let form : OptionForm := {
    name := "shuf", plain := "erz", valued := "ino"
    long := [("echo", 'e'), ("input-range", 'i'), ("head-count", 'n'), ("output", 'o'),
      ("repeat", 'r'), ("zero-terminated", 'z')] }
  fun arguments ↦ form.choose arguments fun c ↦ do
    let ending := if c.has 'z' then '\x00' else '\n'
    let finish (items : List Text) : Act Nat := do
      let items := match (c.value? 'n').bind naturalNumber? with
        | some n => items.take n
        | none => items
      let text := items.flatMap (· ++ [ending])
      match c.value? 'o' with
      | none =>
        put text
        return 0
      | some name =>
        match ← writeFile .writing name text with
        | .ok () => return 0
        | .error f => failOf "shuf" 1 (fileFault name f)
    if c.has 'e' then finish c.others
    else match c.value? 'i' with
      | some t =>
        match (Text.fields '-' t).map naturalNumber? with
        | [some first, some last] =>
          if last + 1 < first then
            failOf "shuf" 1 ("invalid input range: ".toList ++ curled t)
          else finish ((List.range (last + 1 - first)).map fun i ↦ shown (first + i))
        | _ => failOf "shuf" 1 ("invalid input range: ".toList ++ curled t)
      | none =>
        match c.others with
        | _ :: extra :: _ => form.misuse ("extra operand ".toList ++ curled extra)
        | names =>
          match ← readInput (names.headD ['-']) with
          | .ok t => finish (splitLines ending t).1
          | .error f => failOf "shuf" 1 (fileFault (names.headD ['-']) f)

end CommandScript.Shell
