import CommandScript.Shell.Program.Basic

/-!
# Differences

Two texts are compared octet by octet, or line by line: the lines that both have in the same order
are kept, as many as can be, and what is between them is what differs.
-/
namespace CommandScript.Shell

/-! ### Lines that two texts share -/

/-- A stretch in which two texts differ: where it starts and how long it is in each. -/
structure Change where
  /-- The place in the first text. -/
  start : Nat
  /-- How many lines of the first text are removed. -/
  removed : Nat
  /-- The place in the second text. -/
  start' : Nat
  /-- How many lines of the second text are added. -/
  added : Nat
  deriving DecidableEq, Repr

/-- A row of the table of how many lines two texts share from two places on, from the row below it,
given the keys of the second text. -/
def sharedRow (key : Nat) (keys : Array Nat) (below : Array Nat) : Array Nat :=
  let row := (List.range keys.size).foldr (fun j (row : Array Nat) ↦
    let right := row.getD (row.size - 1) 0
    row.push (if keys.getD j 0 = key then below.getD (j + 1) 0 + 1
      else max right (below.getD j 0))) #[0]
  row.reverse

/-- The table of how many lines two texts share from two places on. -/
def sharedTable (as bs : Array Nat) : Array (Array Nat) :=
  let last : Array Nat := Array.replicate (bs.size + 1) 0
  let rows := as.foldr (fun key (rows : List (Array Nat)) ↦
    sharedRow key bs (rows.headD last) :: rows) [last]
  rows.toArray

/-- The stretches in which two texts differ, from two places on, in one that starts at two places.
-/
def changesFrom (as bs : Array Nat) (table : Array (Array Nat)) :
    Nat → Nat → Nat → Nat → Nat → List Change
  | 0, _, _, _, _ => []
  | n + 1, i, j, start, start' =>
    let here : List Change :=
      if i = start ∧ j = start' then [] else [⟨start, i - start, start', j - start'⟩]
    let common (i j : Nat) : Nat := (table.getD i #[]).getD j 0
    if i < as.size ∧ j < bs.size ∧ as.getD i 0 = bs.getD j 0 then
      here ++ changesFrom as bs table n (i + 1) (j + 1) (i + 1) (j + 1)
    else if i < as.size ∧ (j = bs.size ∨ common i (j + 1) ≤ common (i + 1) j) then
      changesFrom as bs table n (i + 1) j start start'
    else if j < bs.size then changesFrom as bs table n i (j + 1) start start'
    else here

/-- The stretches in which two lists of lines differ, where lines are the same if their keys are. -/
def changesBetween (key : Text → Text) (as bs : List Text) : List Change :=
  let keys := (as ++ bs).map key
  let distinct := keys.eraseDups
  let numbers := (keys.map fun k ↦ distinct.idxOf k).toArray
  let (ka, kb) := (numbers.extract 0 as.length, numbers.extract as.length numbers.size)
  changesFrom ka kb (sharedTable ka kb) (as.length + bs.length + 1) 0 0 0 0

/-! ### Writing differences -/

/-- A line of a text with a sign in front of it, and what is said where nothing ends the last line.
-/
def signedLine (sign : String) (line : Text) : Text :=
  if line.getLast? = some '\n' then sign.toList ++ line
  else sign.toList ++ line ++ "\n\\ No newline at end of file\n".toList

/-- A range of lines by its first and its last number. -/
def lineRange (start count : Nat) : Text :=
  if count ≤ 1 then shown (start + count) else shown (start + 1) ++ ',' :: shown (start + count)

/-- A part of a list. -/
def stretch {α : Type} (start count : Nat) (items : List α) : List α :=
    (items.drop start).take count

/-- A change in the usual form. -/
def Change.usual (c : Change) (as bs : List Text) : Text :=
  let letter := if c.removed = 0 then 'a' else if c.added = 0 then 'd' else 'c'
  lineRange c.start c.removed ++ letter :: lineRange c.start' c.added ++ '\n' ::
    ((stretch c.start c.removed as).flatMap (signedLine "< ")) ++
    (if letter = 'c' then "---\n".toList else []) ++
    ((stretch c.start' c.added bs).flatMap (signedLine "> "))

/-- A change as commands that edit the first text. -/
def Change.asEdit (c : Change) (bs : List Text) : Text :=
  let added := (stretch c.start' c.added bs).flatten
  if c.removed = 0 then shown c.start ++ "a\n".toList ++ added ++ ".\n".toList
  else if c.added = 0 then lineRange c.start c.removed ++ "d\n".toList
  else lineRange c.start c.removed ++ "c\n".toList ++ added ++ ".\n".toList

/-- Changes put together where no more than twice some lines are between them. -/
def hunks (context : Nat) : List Change → List (List Change)
  | [] => []
  | c :: rest =>
    match hunks context rest with
    | (next :: row) :: others =>
      if next.start ≤ c.start + c.removed + 2 * context then (c :: next :: row) :: others
      else [c] :: (next :: row) :: others
    | others => [c] :: others

/-- The range of a hunk, as it stands between the signs of its heading. -/
def hunkRange (start count : Nat) : Text :=
  if count = 1 then shown (start + 1)
  else shown (if count = 0 then start else start + 1) ++ ',' :: shown count

/-- The lines of changes in one text, with the lines around them, from a place on. -/
def unifiedLines (as bs : List Text) (finish : Nat) : Nat → List Change → Text
  | place, [] => (stretch place (finish - place) as).flatMap (signedLine " ")
  | place, c :: rest =>
    (stretch place (c.start - place) as).flatMap (signedLine " ") ++
      (stretch c.start c.removed as).flatMap (signedLine "-") ++
      (stretch c.start' c.added bs).flatMap (signedLine "+") ++
      unifiedLines as bs finish (c.start + c.removed) rest

/-- Changes with lines around them in one text. -/
def unifiedHunk (context : Nat) (as bs : List Text) (changes : List Change) : Text :=
  match changes.head?, changes.getLast? with
  | some first, some last =>
    let before := min context first.start
    let after := min context (as.length - (last.start + last.removed))
    let (start, start') := (first.start - before, first.start' - before)
    let finish := last.start + last.removed + after
    let finish' := last.start' + last.added + after
    "@@ -".toList ++ hunkRange start (finish - start) ++ " +".toList ++
      hunkRange start' (finish' - start') ++ " @@\n".toList ++
        unifiedLines as bs finish start changes
  | _, _ => []

/-- One side of changes with lines around them, in the form with two texts. -/
def contextSide (sign : String) (lines : List Text) (start finish : Nat)
    (stretches : List (Nat × Nat × Bool)) : Text :=
  let mark (i : Nat) : String :=
    match stretches.find? fun (start, count, _) ↦ start ≤ i && i < start + count with
    | some (_, _, isBoth) => if isBoth then "! " else sign
    | none => "  "
  ((List.range (finish - start)).flatMap fun k ↦
    signedLine (mark (start + k)) (lines.getD (start + k) []))

/-- Changes with lines around them in two texts. -/
def contextHunk (context : Nat) (as bs : List Text) (changes : List Change) : Text :=
  match changes.head?, changes.getLast? with
  | some first, some last =>
    let before := min context first.start
    let after := min context (as.length - (last.start + last.removed))
    let (start, start') := (first.start - before, first.start' - before)
    let finish := last.start + last.removed + after
    let finish' := last.start' + last.added + after
    let isBoth (c : Change) : Bool := c.removed != 0 && c.added != 0
    let removes := changes.any fun c ↦ c.removed != 0
    let adds := changes.any fun c ↦ c.added != 0
    "***************\n*** ".toList ++ lineRange start (finish - start) ++ " ****\n".toList ++
      (if removes then contextSide "- " as start finish
        (changes.map fun c ↦ (c.start, c.removed, isBoth c)) else []) ++
      "--- ".toList ++ lineRange start' (finish' - start') ++ " ----\n".toList ++
      (if adds then contextSide "+ " bs start' finish'
        (changes.map fun c ↦ (c.start', c.added, isBoth c)) else [])
  | _, _ => []

/-! ### The program -/

/-- What of a line is compared. -/
def comparedLine (c : Choices) (line : Text) : Text :=
  let t := if c.has 'i' then line.map Char.toLower else line
  if c.has 'w' then t.filter (!isSpace ·)
  else if c.has 'b' then
    let squeezed := t.foldr (fun d (rest : Text) ↦
      if isSpace d then (if rest.head? = some ' ' ∨ rest.isEmpty then rest else ' ' :: rest)
      else d :: rest) []
    squeezed
  else if c.has 'Z' then (t.reverse.dropWhile isSpace).reverse else t

/-- What is written about two texts under two names, or nothing where they do not differ. -/
def differences (c : Choices) (names : Text × Text) (t t' : Text) : Text :=
  let (as, bs) := (wholeLines '\n' t, wholeLines '\n' t')
  let changes := changesBetween (comparedLine c) as bs
  let isBlank (x : Change) : Bool :=
    (stretch x.start x.removed as ++ stretch x.start' x.added bs).all fun line ↦ line.all isSpace
  let changes := if c.has 'B' then changes.filter (!isBlank ·) else changes
  let labels := c.values 'L'
  let title (sign : String) (i : Nat) (name : Text) : Text :=
    let words := match labels[i]? with
      | some label => label
      | none => name ++ "\t1970-01-01 00:00:00.000000000 +0000".toList
    sign.toList ++ ' ' :: words ++ ['\n']
  let context := (((c.value? 'U').or (c.value? 'C')).bind naturalNumber?).getD 3
  if changes.isEmpty then []
  else if c.has 'u' ∨ c.has 'U' then
    title "---" 0 names.1 ++ title "+++" 1 names.2 ++
      (hunks context changes).flatMap (unifiedHunk context as bs)
  else if c.has 'c' ∨ c.has 'C' then
    title "***" 0 names.1 ++ title "---" 1 names.2 ++
      (hunks context changes).flatMap (contextHunk context as bs)
  else if c.has 'e' then changes.reverse.flatMap (·.asEdit bs)
  else changes.flatMap (·.usual as bs)

/-- The options of `diff`. -/
def diffForm : OptionForm := {
  name := "diff", plain := "acqsiwbBrNeuZtTdyp", valued := "UCLxWI", failure := 2
  long := [("text", 'a'), ("brief", 'q'), ("report-identical-files", 's'), ("ignore-case", 'i'),
    ("ignore-all-space", 'w'), ("ignore-space-change", 'b'), ("ignore-blank-lines", 'B'),
    ("ignore-trailing-space", 'Z'), ("recursive", 'r'), ("new-file", 'N'), ("ed", 'e'),
    ("unified", 'u'), ("context", 'c'), ("label", 'L'), ("exclude", 'x'), ("minimal", 'd'),
    ("normal", 'd'), ("expand-tabs", 't'), ("initial-tab", 'T')] }

/-- Whether a name leads to a directory. -/
def isDirectoryAt (s : State) (name : Text) : Bool :=
  name != ['-'] && (s.files.find (pathOf name)).toOption = some .directory

/-- Tells what differs in two files, and gives a status. -/
def tellDifferences (c : Choices) (heading : Text) (name name' : Text) : Act Nat := do
  let source (name : Text) : Act (Except FileFault Text) := do
    match ← readInput name with
    | .error .missing => return if c.has 'N' then .ok [] else .error .missing
    | found => return found
  let first ← source name
  let second ← if name = ['-'] ∧ name' = ['-'] then pure first else source name'
  match first, second with
  | .ok t, .ok t' =>
    if t = t' then
      if c.has 's' then
        putLine ("Files ".toList ++ name ++ " and ".toList ++ name' ++ " are identical".toList)
      return 0
    let isBinary := !c.has 'a' && (t.contains '\x00' || t'.contains '\x00')
    let told := if isBinary then "-".toList else differences c (name, name') t t'
    if told.isEmpty then return 0
    if isBinary then
      putLine ((if c.has 'q' then "Files " else "Binary files ").toList ++ name ++ " and ".toList ++
        name' ++ " differ".toList)
      return 1
    if c.has 'q' then
      putLine ("Files ".toList ++ name ++ " and ".toList ++ name' ++ " differ".toList)
      return 1
    put (heading ++ told)
    return 1
  | first, second =>
    for (name, found) in [(name, first), (name', second)] do
      if let .error f := found then tellOf "diff" (name ++ ": ".toList ++ f.words)
    return 2

/-- The letters of the options as they stand in front of the names of files that are compared within
directories. -/
def diffHeading (arguments : List Text) (name name' : Text) : Text :=
  let options := arguments.filter fun t ↦ t.head? = some '-' ∧ t != ['-']
  [' '].intercalate ("diff".toList :: options.map shownName ++ [name, name']) ++ ['\n']

/-- Tells what differs in two directories, up to a depth. -/
def tellTreeDifferences (c : Choices) (arguments : List Text) : Nat → Text → Text → Act Nat
  | 0, _, _ => return 0
  | n + 1, first, second => do
    let s ← get
    let (names, names') := (namesAt s.files first, namesAt s.files second)
    let all := ((names ++ names'.filter (!names.contains ·)).mergeSort fun a b ↦
      decide (String.ofList a ≤ String.ofList b)).filter fun name ↦
        !(c.values 'x').contains name
    let mut status := 0
    for name in all do
      let (path, path') := (pathIn first name, pathIn second name)
      let found ← if !names.contains name ∧ !c.has 'N' then do
          putLine ("Only in ".toList ++ second ++ ": ".toList ++ name)
          pure 1
        else if !names'.contains name ∧ !c.has 'N' then do
          putLine ("Only in ".toList ++ first ++ ": ".toList ++ name)
          pure 1
        else match isDirectoryAt s path, isDirectoryAt s path' with
          | true, true =>
            if c.has 'r' then tellTreeDifferences c arguments n path path'
            else do
              putLine ("Common subdirectories: ".toList ++ path ++ " and ".toList ++ path')
              pure 0
          | true, false => do
            putLine ("File ".toList ++ path ++ " is a directory while file ".toList ++ path' ++
              " is a regular file".toList)
            pure 1
          | false, true => do
            putLine ("File ".toList ++ path ++ " is a regular file while file ".toList ++ path' ++
              " is a directory".toList)
            pure 1
          | false, false => tellDifferences c (diffHeading arguments path path') path path'
      status := max status found
    return status

/-- Arguments where a number behind a hyphen stands for an option of the lines around changes. -/
def withContextOption (arguments : List Text) : List Text := arguments.map fun t ↦ match t with
  | '-' :: d :: rest => if d.isDigit then "-U".toList ++ d :: rest else t
  | t =>
    match Text.dropStart? "--unified=".toList t, Text.dropStart? "--context=".toList t with
    | some n, _ => "-U".toList ++ n
    | _, some n => "-C".toList ++ n
    | _, _ => t

/-- Tells that `diff` or `cmp` has been used in a wrong way. -/
def misuseOf (form : OptionForm) (message : Text) : Act Nat := do
  tellOf form.name message
  tellOf form.name ("Try '".toList ++ form.name.toList ++ " --help' for more information.".toList)
  return form.failure

/-- The program `diff`. -/
def diffFiles : Utility := fun arguments ↦ do
  match diffForm.read (arguments.length + 1) (withContextOption arguments) with
  | .error message => misuseOf diffForm message
  | .ok c =>
    match c.others with
    | [] => misuseOf diffForm "missing operand after 'diff'".toList
    | [one] => misuseOf diffForm ("missing operand after '".toList ++ one ++ [Text.singleQuote])
    | [first, second] =>
      let s ← get
      let last (path : Text) : Text := narrow (((pathOf path).names.getLast?).getD [])
      match isDirectoryAt s first, isDirectoryAt s second with
      | true, true => tellTreeDifferences c arguments 100 first second
      | true, false => tellDifferences c [] (pathIn first (last second)) second
      | false, true => tellDifferences c [] first (pathIn second (last first))
      | false, false => tellDifferences c [] first second
    | _ :: _ :: extra :: _ =>
      misuseOf diffForm ("extra operand '".toList ++ extra ++ [Text.singleQuote])

/-! ### Octets -/

/-- The places at which two texts differ, from one on, with what is there. -/
def octetDifferences : Nat → Text → Text → List (Nat × Char × Char)
  | n, a :: as, b :: bs =>
    if a = b then octetDifferences (n + 1) as bs
    else (n, a, b) :: octetDifferences (n + 1) as bs
  | _, _, _ => []

/-- A character as `cmp` shows it. -/
def shownOctet (c : Char) : Text :=
  let low (n : Nat) : Text :=
    if n < 32 then ['^', Char.ofNat (n + 64)] else if n = 127 then "^?".toList else [Char.ofNat n]
  if c.toNat < 128 then low c.toNat else "M-".toList ++ low (c.toNat - 128)

/-- The program `cmp`. -/
def compareFiles : Utility :=
  let form : OptionForm := {
    name := "cmp", plain := "bls", valued := "in", failure := 2
    long := [("print-bytes", 'b'), ("ignore-initial", 'i'), ("verbose", 'l'), ("bytes", 'n'),
      ("quiet", 's'), ("silent", 's')] }
  fun arguments ↦ do
    match form.read (arguments.length + 1) arguments with
    | .error message => misuseOf form message
    | .ok c =>
      match c.others with
      | [] => misuseOf form "missing operand after 'cmp'".toList
      | first :: rest =>
        let second := rest.headD ['-']
        let skips := (c.values 'i').flatMap (Text.fields ':')
        let skip (i : Nat) (operand : Nat) : Nat :=
          ((skips[i]?.or skips[0]?).bind sizedNumber?).getD 0 +
            ((rest[operand]?).bind sizedNumber?).getD 0
        let text (name : Text) : Act (Option Text) := do
          match ← readInput name with
          | .ok t => return some t
          | .error f =>
            if !c.has 's' then tellOf "cmp" (name ++ ": ".toList ++ f.words)
            return none
        match ← text first with
        | none => return 2
        | some t =>
          match ← text second with
          | none => return 2
          | some t' =>
            let limit (t : Text) : Text := match (c.value? 'n').bind sizedNumber? with
              | some n => t.take n
              | none => t
            let (t, t') := (limit (t.drop (skip 0 1)), limit (t'.drop (skip 1 2)))
            let found := octetDifferences 1 t t'
            let octal (o : Char) : Text := padStart 3 (digitsIn 8 o.toNat)
            let byte (o : Char) : Text := octal o ++ ' ' :: shownOctet o
            if found.isEmpty ∧ t.length = t'.length then return 0
            if c.has 's' then return 1
            if c.has 'l' then
              let width := (shown (min t.length t'.length)).length
              put (found.flatMap fun (n, a, b) ↦ padStart width (shown n) ++ ' ' ::
                (if c.has 'b' then Text.padEnd 8 (byte a) ++ ' ' :: byte b
                  else octal a ++ ' ' :: octal b) ++ ['\n'])
            else if let (n, a, b) :: _ := found then
              let line := (t.take (n - 1)).count '\n' + 1
              put (first ++ ' ' :: second ++ " differ: byte ".toList ++ shown n ++
                ", line ".toList ++
                shown line ++ (if c.has 'b' then " is ".toList ++ byte a ++ ' ' :: byte b
                  else []) ++ ['\n'])
              return 1
            if t.length != t'.length then
              let (name, short) := if t.length < t'.length then (first, t) else (second, t')
              let lines := short.count '\n'
              if short.isEmpty then
                tellOf "cmp" ("EOF on ".toList ++ name ++ " which is empty".toList)
              else tellOf "cmp" ("EOF on ".toList ++ name ++ " after byte ".toList ++
                shown short.length ++ (if c.has 'l' then []
                  else if short.getLast? = some '\n' then ", line ".toList ++ shown lines
                  else ", in line ".toList ++ shown (lines + 1)))
            return 1

end CommandScript.Shell
