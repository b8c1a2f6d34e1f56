import CommandScript.Shell.Expression
import CommandScript.Shell.Program.Listing
import CommandScript.Shell.Program.Whole

/-!
# Searching in lines

The program `grep` chooses the lines of files in which one of some expressions occurs, or in which
none does. It writes them, what has been found in them, how many they are, or the names of the files
that have them. Lines around those that are chosen may be written too; a gap between them is marked.
-/
namespace CommandScript.Shell

/-! ### What is looked for -/

namespace Expression.Spelling

/-- The basic notation of `grep`. -/
def searchBasic : Spelling := { basic with classesChecked := true, rangesChecked := true }

/-- The extended notation of `grep`. -/
def searchExtended : Spelling :=
  { extended with lone := .lacks, bracesRefused := false, classesChecked := true }

end Expression.Spelling

/-- The ends to which an expression leads from a place of a line. -/
def Expression.endsFrom (e : Expression) (t : Array Char) (i : Nat) : List Nat :=
  if e.refers then ((ways t ((t.size + 2) * (e.size + 1)) e (i, [])).map Prod.fst)
  else advance t e [i]

/-- How much of a line has to match. -/
inductive Stretch where
  /-- Any part. -/
  | part
  /-- Whole words. -/
  | words
  /-- The whole line. -/
  | line
  deriving DecidableEq, Repr

/-- What is **looked for** in lines. -/
structure Search where
  /-- The expressions, one of which has to match. -/
  wanted : List Expression
  /-- How much of a line has to match. -/
  stretch : Stretch
  /-- Whether the lines that do not match are chosen. -/
  inverted : Bool

namespace Search

/-- Whether a stretch of a line is one that may match. -/
def allows (s : Search) (t : Array Char) (i j : Nat) : Bool :=
  match s.stretch with
  | .part => true
  | .line => i = 0 && j = t.size
  | .words =>
    !(0 < i && ((t[i - 1]?).map Expression.isWordCharacter).getD false) &&
      !((t[j]?).map Expression.isWordCharacter).getD false

/-- The end of the longest match that starts at a place. -/
def longestAt? (s : Search) (t : Array Char) (i : Nat) : Option Nat :=
  ((s.wanted.flatMap fun e ↦ e.endsFrom t i).filter (s.allows t i)).max?

/-- The first match from a place of a line on, among a number of places. -/
def findFrom (s : Search) (t : Array Char) : Nat → Nat → Option (Nat × Nat)
  | 0, _ => none
  | n + 1, i =>
    match s.longestAt? t i with
    | some j => some (i, j)
    | none => if s.stretch = .line then none else findFrom s t n (i + 1)

/-- Whether a line matches. -/
def occurs (s : Search) (line : Text) : Bool :=
  let t := (wide line).toArray
  (s.findFrom t (t.size + 1) 0).isSome

/-- Whether a line is chosen. -/
def chooses (s : Search) (line : Text) : Bool := s.occurs line != s.inverted

/-- The matches in a line that are not empty, from a place on. -/
def matchesFrom (s : Search) (t : Array Char) : Nat → Nat → List (Nat × Nat)
  | 0, _ => []
  | n + 1, i =>
    match s.findFrom t (t.size + 1 - i) i with
    | none => []
    | some (a, b) =>
      if a = b then matchesFrom s t n (a + 1) else (a, b) :: matchesFrom s t n b

/-- A line in parts, each with whether it is a match. -/
def parts (s : Search) (line : Text) : List (Bool × Text) :=
  let t := (wide line).toArray
  let found := s.matchesFrom t (t.size + 1) 0
  let text (i j : Nat) : Text := narrow (t.extract i j).toList
  let (pieces, last) := found.foldl (fun ((pieces, last) : List (Bool × Text) × Nat) (a, b) ↦
    ((true, text a b) :: (false, text last a) :: pieces, b)) ([], 0)
  ((false, text last t.size) :: pieces).reverse.filter fun p ↦ !p.2.isEmpty

end Search

/-- The notations in which `grep` reads what is looked for. -/
inductive SearchNotation where
  /-- The basic one. -/
  | basic
  /-- The extended one. -/
  | extended
  /-- Texts that stand for themselves. -/
  | fixed
  deriving DecidableEq, Repr

/-- The expression of one line of what is looked for. -/
def SearchNotation.read (n : SearchNotation) (t : Text) : Except Expression.Flaw Expression :=
  match n with
  | .basic => Expression.read .searchBasic (wide t)
  | .extended => Expression.read .searchExtended (wide t)
  | .fixed => .ok (Expression.ofLiteral (wide t))

/-- What is said about repetitions without anything before them, given whether nothing comes before,
and whether what comes is in a set. -/
def loneRepetitions : Nat → Bool → Text → List Text
  | 0, _, _ => []
  | _, _, [] => []
  | n + 1, _, '\\' :: _ :: rest => loneRepetitions n false rest
  | n + 1, _, '[' :: rest =>
    match CharacterSet.read? .plain rest with
    | some (_, after) => loneRepetitions n false after
    | none => []
  | n + 1, bare, c :: rest =>
    let after := loneRepetitions n (bare && "*+?".toList.contains c || "(|^".toList.contains c) rest
    if bare ∧ "*+?".toList.contains c then
      ("warning: ".toList ++ [c] ++ " at start of expression".toList) :: after
    else if bare ∧ c = '\x7b' then
      match Expression.bounds .searchExtended rest with
      | .ok (some _) => "warning: \x7b...\x7d at start of expression".toList :: after
      | _ => after
    else after

/-! ### What is written -/

/-- How `grep` writes what it has found. -/
structure SearchReport where
  /-- Whether the name of the file stands before each line. -/
  names : Bool
  /-- Whether the number of the line does. -/
  numbers : Bool
  /-- Whether its offset in the file does. -/
  offsets : Bool
  /-- Whether a tab stands before each line. -/
  tabs : Bool
  /-- What ends the name of a file, if not a sign. -/
  nameEnd : Option Char
  /-- What ends a line. -/
  lineEnd : Char
  /-- Whether only what matches is written. -/
  onlyMatches : Bool
  /-- Whether matches have a colour. -/
  colours : Bool
  /-- How many lines before a chosen one are written. -/
  before : Nat
  /-- How many lines after a chosen one are written. -/
  after : Nat
  /-- What stands in the place of a gap, if lines around chosen ones have been asked for. -/
  gap : Option Text

/-- A line of a file, with its number and its offset. -/
structure FoundLine where
  /-- The line. -/
  text : Text
  /-- Its number. -/
  number : Nat
  /-- Its offset. -/
  offset : Nat
  /-- Whether it is chosen. -/
  chosen : Bool

namespace SearchReport

/-- A text in a colour. -/
def paint (r : SearchReport) (colour : String) (t : Text) : Text :=
  if r.colours then
    "\x1b[".toList ++ colour.toList ++ "m\x1b[K".toList ++ t ++ "\x1b[m\x1b[K".toList
  else t

/-- What stands before a line, with a sign behind each part. -/
def start (r : SearchReport) (name : Text) (sign : Char) (number offset : Nat) : Text :=
  let mark := r.paint "36" [sign]
  let width (n : Nat) (t : Text) : Text := if r.tabs then padStart n t else t
  let name := if !r.names then [] else
    r.paint "35" name ++ match r.nameEnd with
      | some c => [c]
      | none => mark
  let number := if !r.numbers then [] else
    r.paint "32" (width (if r.names then 0 else 2) (shown number)) ++ mark
  let offset := if !r.offsets then [] else
    r.paint "32" (width (if r.names then 0 else 2) (shown offset)) ++ mark
  name ++ number ++ offset ++
    if r.tabs ∧ (r.names ∨ r.numbers ∨ r.offsets) then ['\t'] else []

/-- The lines that are written for a line of a file, as parts that are checked one by one. -/
def rows (r : SearchReport) (s : Search) (name : Text) (line : FoundLine) : List (Text × Text) :=
  let sign := if line.chosen then ':' else '-'
  if r.onlyMatches then
    if !line.chosen ∨ s.inverted then [] else
      let (found, _) := (s.parts line.text).foldl
        (fun ((found, offset) : List (Text × Text) × Nat) (isMatch, t) ↦
          (if isMatch then (r.start name sign line.number offset ++ r.paint "01;31" t, t) :: found
            else found, offset + t.length)) ([], line.offset)
      found.reverse
  else
    let text := if r.colours ∧ line.chosen ∧ !s.inverted then
        (s.parts line.text).flatMap fun (isMatch, t) ↦ if isMatch then r.paint "01;31" t else t
      else line.text
    [(r.start name sign line.number line.offset ++ text, line.text)]

/-- The lines that are chosen or have a chosen one at most some lines before them. -/
def keptAfter (reach : Nat) : Nat → List FoundLine → List Bool
  | _, [] => []
  | left, line :: rest =>
    if line.chosen then true :: keptAfter reach reach rest
    else (0 < left : Bool) :: keptAfter reach (left - 1) rest

/-- The lines that are written, each with whether a gap comes before it. -/
def withContext (r : SearchReport) (lines : List FoundLine) : List (Bool × FoundLine) :=
  let behind := keptAfter r.after 0 lines
  let ahead := (keptAfter r.before 0 lines.reverse).reverse
  let kept := (lines.zip (behind.zip ahead)).filter fun (_, x, y) ↦ x || y
  let (found, _) := kept.foldl (fun ((found, last) : List (Bool × FoundLine) × Option Nat) e ↦
    ((last.any (· + 1 < e.1.number), e.1) :: found, some e.1.number)) ([], none)
  found.reverse

end SearchReport

/-- Lines with their numbers and offsets, where at most a number of them is chosen; only some lines
after the last one of these are looked at. Gives the end of the last one that is chosen too, if no
more may be. -/
def foundFrom (s : Search) (after : Nat) : Nat → Nat → Nat → List Text →
    List FoundLine × Option Nat
  | _, _, _, [] => ([], none)
  | most, number, offset, text :: rest =>
    let behind := offset + text.length + 1
    match most with
    | 0 => (((text :: rest).take after).zipIdx.map fun (text, i) ↦
        ⟨text, number + i, offset, false⟩, some offset)
    | most + 1 =>
      let chosen := s.chooses text
      let (lines, stop) := foundFrom s after (if chosen then most else most + 1) (number + 1) behind
        rest
      (⟨text, number, offset, chosen⟩ :: lines, stop)

/-- The lines of a text, where at most a number of them is chosen; and how many octets there are up
to the end of the last line that is looked at. -/
def foundLines (s : Search) (ending : Char) (after most : Nat) (t : Text) : List FoundLine × Nat :=
  let (lines, stop) := foundFrom s after most 1 0 (splitLines ending t).1
  (lines, min (stop.getD t.length) t.length)

/-- Whether a text holds octets that are no characters. -/
def hasStray (t : Text) : Bool := (wide t).any isStray

/-! ### The program -/

/-- The options of `grep`. -/
def searchForm : OptionForm := {
  name := "grep", failure := 2
  plain := "EFGPivywxclLqsnbHhoaIrRzZTU0123456789", valued := "efmABCdD"
  long := [("extended-regexp", 'E'), ("fixed-strings", 'F'), ("basic-regexp", 'G'),
    ("perl-regexp", 'P'), ("ignore-case", 'i'), ("no-ignore-case", 'j'), ("invert-match", 'v'),
    ("word-regexp", 'w'), ("line-regexp", 'x'), ("count", 'c'), ("files-with-matches", 'l'),
    ("files-without-match", 'L'), ("quiet", 'q'), ("silent", 'q'), ("no-messages", 's'),
    ("line-number", 'n'), ("byte-offset", 'b'), ("with-filename", 'H'), ("no-filename", 'h'),
    ("only-matching", 'o'), ("text", 'a'), ("recursive", 'r'), ("dereference-recursive", 'R'),
    ("null-data", 'z'), ("null", 'Z'), ("initial-tab", 'T'), ("binary", 'U'), ("regexp", 'e'),
    ("file", 'f'), ("max-count", 'm'), ("after-context", 'A'), ("before-context", 'B'),
    ("context", 'C'), ("directories", 'd'), ("devices", 'D'),
    ("line-buffered", 'U')] }

/-- The long options of `grep` with values that have no letters, and what letters stand for them. -/
def searchValues : List (String × Char) := [
  ("--label=", 'u'), ("--include=", 'X'), ("--exclude=", 'Y'), ("--exclude-dir=", 'N'),
  ("--group-separator=", 'S'), ("--binary-files=", 'W'), ("--colour=", 'k'), ("--color=", 'k')]

/-- Takes the long options with values that have no letters out of arguments. -/
def takeSearchValues : List Text → List (Char × Option Text) × List Text
  | [] => ([], [])
  | ['-', '-'] :: rest => ([], ['-', '-'] :: rest)
  | t :: rest =>
    let (given, others) := takeSearchValues rest
    if t = "--no-group-separator".toList then (('J', none) :: given, others)
    else if t = "--color".toList ∨ t = "--colour".toList then (given, others)
    else match searchValues.findSome? fun e ↦
        (Text.dropStart? e.1.toList t).map fun value ↦ (e.2, some value) with
      | some e => (e :: given, others)
      | none => (given, t :: others)

/-- Tells that `grep` has been used in a wrong way. -/
def searchMisuse (message : Option Text) : Act Nat := do
  match message with
  | some t => tellOf "grep" t
  | none => pure ()
  tellLine "Usage: grep [OPTION]... PATTERNS [FILE]...".toList
  tellLine "Try 'grep --help' for more information.".toList
  return 2

/-- The files at and below a path, which are searched when directories are gone through. -/
def searchedFiles (c : Choices) (files : FileStore) : Nat → Bool → Text → Location → List Text
  | 0, _, _, _ => []
  | n + 1, isTop, path, l =>
    let fits (letter : Char) (name : Text) : Bool := (c.values letter).any fun t ↦
      (Pattern.of false (Marked.ofText true t)).fits (wide name)
    let name := (path.reverse.takeWhile (· != '/')).reverse
    let target := if c.has 'R' ∨ isTop then
        ((files.follow true FileStore.maxLinks l.dropLast (l.getLast?.toList)).toOption).getD l
      else l
    match files.content? target with
    | some .directory =>
      if !isTop ∧ fits 'N' name then []
      else (namesIn files target).flatMap fun name ↦
        searchedFiles c files n false (if path.isEmpty then name else pathIn path name)
          (target ++ [wide name])
    | some (.file _) =>
      if fits 'Y' name ∨ ((c.values 'X') != [] ∧ !fits 'X' name) then [] else [path]
    | _ => []

/-- What is written for one text, with whether a line of it is chosen, and how many octets of it are
left. -/
structure SearchOutcome where
  /-- The text that is written. -/
  written : Text
  /-- Whether something is chosen. -/
  found : Bool
  /-- How many octets come after the last line that is looked at. -/
  left : Nat
  /-- Whether what matches is no text. -/
  isBinary : Bool
  /-- Whether lines have been written that may be followed by a gap. -/
  hasLines : Bool := false

/-- Searches one text, given whether lines of another one have been written. -/
def searchText (c : Choices) (r : SearchReport) (s : Search) (most : Nat) (follows : Bool)
    (name t : Text) : SearchOutcome :=
  let isBrief := c.has 'q' || c.has 'l' || c.has 'L'
  let (lines, read) := foundLines s r.lineEnd r.after (if isBrief then 1 else most) t
  let count := lines.countP (·.chosen)
  let found := 0 < count
  let name' := if r.names then r.paint "35" name ++ [r.nameEnd.getD ':'] else []
  let isText := c.has 'a' || c.value? 'W' = some "text".toList
  let isSkipped := c.has 'I' || c.value? 'W' = some "without-match".toList
  let hasNull := !isText && r.lineEnd != '\x00' && t.contains '\x00'
  let left := if isBrief then 0 else t.length - read
  let outcome (written : Text) (found : Bool) (left : Nat) (isBinary : Bool) : SearchOutcome :=
    { written, found, left, isBinary }
  if hasNull ∧ isSkipped then
    outcome (if c.has 'L' then r.paint "35" name ++ [r.nameEnd.getD '\n'] else []) false 0 false
  else if c.has 'q' then outcome [] found left false
  else if c.has 'l' ∨ c.has 'L' then
    let isListed := if c.last? "lL" = some 'L' then !found else found
    outcome (if isListed then r.paint "35" name ++ [r.nameEnd.getD '\n'] else []) found left false
  else if c.has 'c' then
    let sign := if r.names ∧ r.nameEnd.isNone then r.paint "35" name ++ r.paint "36" [':']
      else name'
    outcome (sign ++ shown count ++ ['\n']) found left false
  else if hasNull then outcome [] found left found
  else
    let gap (isThere : Bool) : Text :=
      if isThere then (r.gap.map fun g ↦ r.paint "36" g ++ ['\n']).getD [] else []
    let rows := (r.withContext lines).map fun (isGap, line) ↦ (gap isGap, r.rows s name line)
    let isWhole (row : Text × Text) : Bool := isText || !hasStray row.2
    let written := rows.flatMap fun (gap, parts) ↦
      gap ++ (parts.filter isWhole).flatMap fun row ↦ row.1 ++ [r.lineEnd]
    { written := gap (follows && !rows.isEmpty) ++ written, found, left
      isBinary := rows.any fun (_, parts) ↦ !parts.all isWhole, hasLines := !rows.isEmpty }

/-- The lines that say what is looked for, and the files in which it is, or the message about a file
of such lines that cannot be read. -/
def searchLinesWanted (c : Choices) : Act (Except Text (Option (List Text × List Text))) := do
  let mut wanted : List Text := []
  for (letter, value) in c.given do
    if letter = 'e' then wanted := wanted ++ Text.fields '\n' (value.getD [])
    else if letter = 'f' then
      match ← readInput (value.getD []) with
      | .ok t => wanted := wanted ++ linesOf t
      | .error f => return .error (fileFault (value.getD []) f)
  if c.has 'e' ∨ c.has 'f' then return .ok (some (wanted, c.others))
  else match c.others with
    | [] => return .ok none
    | t :: rest => return .ok (some (Text.fields '\n' t, rest))

/-- The number that stands behind an option for lines around chosen ones. -/
def contextSize (c : Choices) (letter : Char) : Except Text (Option Nat) :=
  match c.value? letter with
  | none => .ok none
  | some t => match naturalNumber? t with
    | some n => .ok (some n)
    | none => .error (t ++ ": invalid context length argument".toList)

/-- The notation that options choose, or nothing where they choose two. -/
def searchNotation? (usual : SearchNotation) (c : Choices) : Option SearchNotation :=
  match (c.given.map Prod.fst |>.filter fun l ↦ "EFG".toList.contains l).eraseDups with
  | [] => some usual
  | ['E'] => some .extended
  | ['F'] => some .fixed
  | ['G'] => some .basic
  | _ => none

/-- Searches files for `grep` and gives the status. -/
def searchFiles (c : Choices) (r : SearchReport) (s : Search) (most : Nat) (names : List Text) :
    Act Nat := do
  let mut found := false
  let mut failed := false
  let mut follows := false
  for name in names do
    let isInput := name = ['-']
    let name' := if isInput then (c.value? 'u').getD "(standard input)".toList else name
    let writes := !(c.has 'q' || c.has 'l' || c.has 'L' || c.has 'c') && 1 < most
    if writes ∧ copiesItself (← get) name then
      tellOf "grep" (name' ++ ": input file is also the output".toList)
      failed := true
    else match ← readInput name with
      | .error f =>
        if !(f = .isDirectory && (c.value? 'd').any (· != "read".toList)) then
          failed := true
          if !c.has 's' then tellOf "grep" (name ++ ": ".toList ++ f.words)
          if f = .isDirectory then put (searchText c r s most false name []).written
      | .ok t =>
        let o := searchText c r s most follows name' t
        follows := follows || o.hasLines
        if isInput then unread 0 o.left
        put o.written
        if o.isBinary then tellOf "grep" (name' ++ ": binary file matches".toList)
        found := found || o.found
        if c.has 'q' ∧ found then return 0
  return if failed then 2 else if found then 0 else 1

/-- The program `grep`, with the notation that it reads where no option says which. -/
def searchLines (usual : SearchNotation) : Utility := fun arguments ↦ do
  let (values, arguments) := takeSearchValues arguments
  match searchForm.read (arguments.length + 1) arguments with
  | .error message => searchMisuse (some message)
  | .ok c =>
    let c := { c with given := c.given ++ values }
    let number := String.ofList ((c.given.map Prod.fst).filter Char.isDigit)
    let most : Option (Option Nat) := match c.value? 'm' with
      | none => some none
      | some t => (wholeNumber? t).map fun (n : Int) ↦ if n < 0 then none else some n.toNat
    match contextSize c 'A', contextSize c 'B', contextSize c 'C', most with
    | .error message, _, _, _ => failOf "grep" 2 message
    | _, .error message, _, _ => failOf "grep" 2 message
    | _, _, .error message, _ => failOf "grep" 2 message
    | _, _, _, none => failOf "grep" 2 "invalid max count".toList
    | .ok after, .ok before, .ok around, some most =>
      let around := if number = "" then around else naturalNumber? number.toList
      match searchNotation? usual c with
      | none => failOf "grep" 2 "conflicting matchers specified".toList
      | some kind =>
        match ← searchLinesWanted c with
        | .error message => failOf "grep" 2 message
        | .ok none => searchMisuse none
        | .ok (some (wanted, names)) =>
          match wanted.mapM kind.read with
          | .error f => failOf "grep" 2 f.words.toList
          | .ok es =>
            if kind = .extended then
              for t in wanted do
                for message in loneRepetitions (t.length + 1) true t do tellOf "grep" message
            let s : Search := {
              wanted := if c.last? "iyj" = some 'i' ∨ c.last? "iyj" = some 'y' then
                  es.map Expression.eitherCase else es
              stretch := if c.has 'x' then .line else if c.has 'w' then .words else .part
              inverted := c.has 'v' }
            let isDeep := c.has 'r' || c.has 'R' || c.value? 'd' = some "recurse".toList
            let files := (← get).files
            let isDirectory (name : Text) : Bool :=
              (files.find (pathOf name)).toOption = some .directory
            let named : List Text := if !isDeep then orInput names
              else if names.isEmpty then searchedFiles c files maxTreeDepth true [] files.here
              else names.flatMap fun name ↦
                match files.locate (pathOf name) with
                | .ok l =>
                  if isDirectory name then searchedFiles c files maxTreeDepth true name l
                  else [name]
                | .error _ => [name]
            let r : SearchReport := {
              names := match c.last? "Hh" with
                | some letter => letter = 'H'
                | none => 1 < names.length || (isDeep && (names.isEmpty || names.any isDirectory))
              numbers := c.has 'n', offsets := c.has 'b', tabs := c.has 'T'
              nameEnd := if c.has 'Z' then some '\x00' else none
              lineEnd := if c.has 'z' then '\x00' else '\n'
              onlyMatches := c.has 'o'
              colours := c.value? 'k' = some "always".toList
              before := (before.orElse fun _ ↦ around).getD 0
              after := (after.orElse fun _ ↦ around).getD 0
              gap := if c.has 'J' ∨ (before.isNone ∧ after.isNone ∧ around.isNone) then none
                else some ((c.value? 'S').getD "--".toList) }
            if most = some 0 ∧ !c.has 'L' ∧ !c.has 'c' then return 1
            searchFiles c r s (most.getD (Nat.pow 10 18)) named

end CommandScript.Shell
