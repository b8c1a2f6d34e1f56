import CommandScript.Shell.Calendar
import CommandScript.Shell.Decimal
import CommandScript.Shell.Program.Basic

/-!
# Orders of lines

Lines are put in order by keys: parts of them, which are compared octet by octet, as numbers, as
sizes, as months or as versions. The lines that come out equal keep their order, or are told apart
by all their octets. Repetitions of lines are counted or left out.
-/
namespace CommandScript.Shell

/-! ### Comparing -/

/-- The order of two texts by their octets. -/
def compareOctets : Text → Text → Ordering
  | [], [] => .eq
  | [], _ :: _ => .lt
  | _ :: _, [] => .gt
  | a :: t, b :: u => if a = b then compareOctets t u else if a < b then .lt else .gt

/-- The value of the number that a text opens with after blanks, as a whole number and the count of
its digits after the point. -/
def numericValue (t : Text) : Int × Nat :=
  let t := t.dropWhile isShellBlank
  let (negative, t) := match t with
    | '-' :: rest => (true, rest)
    | t => (false, t)
  let whole := t.takeWhile Char.isDigit
  let places := match t.drop whole.length with
    | '.' :: rest => rest.takeWhile Char.isDigit
    | _ => []
  let n : Int := Text.digitsValue (whole ++ places)
  (if negative then -n else n, places.length)

/-- The order of two numbers with digits after the point. -/
def compareNumeric (a b : Int × Nat) : Ordering :=
  compare (a.1 * Nat.pow 10 b.2) (b.1 * Nat.pow 10 a.2)

/-- The rank of the letter behind a number that says how large it is. -/
def sizeRank (t : Text) : Int :=
  let number := t.dropWhile isShellBlank
  let unsigned := if number.head? = some '-' then number.drop 1 else number
  let digits := unsigned.takeWhile fun c ↦ c.isDigit || c = '.'
  let isZero := digits.all fun c ↦ c = '0' || c = '.'
  let rank : Int := match (unsigned.drop digits.length).head? with
    | some 'k' => 1
    | some c => match "KMGTPEZYRQ".toList.idxOf? c with
      | some i => i + 1
      | none => 0
    | none => 0
  if isZero then 0 else if number.head? = some '-' then -rank else rank

/-- The number of the month whose name a text opens with after blanks, or zero. -/
def monthRank (t : Text) : Nat :=
  let name := ((t.dropWhile isShellBlank).take 3).map Char.toLower
  match monthNames.findIdx? fun month ↦ (month.toList.take 3).map Char.toLower = name with
  | some i => i + 1
  | none => 0

/-- The rank of the general number that a text opens with: nothing that is a number comes first,
then what is undefined. -/
def generalOrder (a b : Text) : Ordering :=
  let value (t : Text) : Nat × Int × Nat := match readReal t with
    | none => (0, 0, 1)
    | some (.undefined _, _) => (1, 0, 1)
    | some (.infinite true, _) => (2, 0, 1)
    | some (.finite negative f, _) =>
      (3, if negative then -f.numerator else f.numerator, f.denominator)
    | some (.infinite false, _) => (4, 0, 1)
  let (ra, na, da) := value a
  let (rb, nb, db) := value b
  (compare ra rb).then (compare (na * db) (nb * da))

/-- The rank of a character of a version that is no digit; nothing has a rank too. -/
def versionRank (t : Text) : Int :=
  match t with
  | [] => -1
  | c :: _ =>
    if c.isDigit then 0 else if c.isAlpha then c.toNat else if c = '~' then -2 else c.toNat + 256

/-- The order of two versions, part by part. -/
def compareVersionParts : Nat → Text → Text → Ordering
  | 0, _, _ => .eq
  | _, [], [] => .eq
  | n + 1, a, b =>
    let opensDigits (t : Text) : Bool := (t.head?.map Char.isDigit).getD true
    if !opensDigits a ∨ !opensDigits b then
      (compare (versionRank a) (versionRank b)).then (compareVersionParts n (a.drop 1) (b.drop 1))
    else
      let digits (t : Text) : Text := (t.dropWhile (· = '0')).takeWhile Char.isDigit
      let after (t : Text) : Text := t.dropWhile Char.isDigit
      ((compare (digits a).length (digits b).length).then
        (compareOctets (digits a) (digits b))).then (compareVersionParts n (after a) (after b))

/-- Whether a text is made of endings as names of files have them. -/
def isEnding : Nat → Text → Bool
  | 0, _ => false
  | _, [] => true
  | n + 1, '.' :: c :: rest =>
    (c.isAlpha || c = '~') && isEnding n (rest.dropWhile fun c ↦ c.isAlphanum || c = '~')
  | _, _ => false

/-- A name without the endings of names of files. -/
def withoutEndings (t : Text) : Text :=
  match (List.range t.length).find? fun i ↦ isEnding (t.length + 1) (t.drop i) with
  | some i => if i = 0 then t else t.take i
  | none => t

/-- The order of two names by the versions in them. -/
def compareVersions (a b : Text) : Ordering :=
  let rank (t : Text) : Nat :=
    if t = [] then 0 else if t = ['.'] then 1 else if t = ['.', '.'] then 2
    else if t.head? = some '.' then 3 else 4
  let parts (a b : Text) : Ordering := compareVersionParts (a.length + b.length + 1) a b
  ((compare (rank a) (rank b)).then (parts (withoutEndings a) (withoutEndings b))).then (parts a b)

/-- The order of two texts by the letters of options. -/
def compareBy (letters : Text) (a b : Text) : Ordering :=
  let has (c : Char) : Bool := letters.contains c
  let order :=
    if has 'n' then compareNumeric (numericValue a) (numericValue b)
    else if has 'g' then generalOrder a b
    else if has 'h' then
      (compare (sizeRank a) (sizeRank b)).then (compareNumeric (numericValue a) (numericValue b))
    else if has 'M' then compare (monthRank a) (monthRank b)
    else if has 'V' then compareVersions a b
    else
      let seen (t : Text) : Text :=
        let t := if has 'd' then t.filter fun c ↦ c.isAlphanum || isShellBlank c else t
        let t := if has 'i' then t.filter fun c ↦ ' ' ≤ c && c ≤ '~' else t
        if has 'f' then t.map Char.toUpper else t
      compareOctets (seen a) (seen b)
  if has 'r' then order.swap else order

/-! ### Keys -/

/-- A **key** of lines: a part of each, and how it is compared. -/
structure SortKey where
  /-- How many fields come before the key, and how many characters of its first field. -/
  start : Nat × Nat
  /-- The last field of the key, from zero on, and how many characters of it are in the key, where
  none means all. -/
  finish : Option (Nat × Nat)
  /-- Whether blanks at the start are passed over. -/
  skipsStart : Bool
  /-- Whether blanks before the end are passed over. -/
  skipsFinish : Bool
  /-- The letters of the options. -/
  letters : Text
  deriving DecidableEq, Repr

namespace SortKey

/-- What is left of a line after some fields. -/
def afterFields (separator : Option Char) : Nat → Text → Text
  | 0, t => t
  | n + 1, t =>
    match separator with
    | some c => afterFields separator n ((t.dropWhile (· != c)).drop 1)
    | none => afterFields separator n ((t.dropWhile isShellBlank).dropWhile (!isShellBlank ·))

/-- What is left of a line from the end of some fields on; the separator after them is left where
nothing of the next field is in the key. -/
def endOfFields (separator : Option Char) (goesOn : Bool) : Nat → Text → Text
  | 0, t => t
  | n + 1, t =>
    match separator with
    | some c =>
      let t := t.dropWhile (· != c)
      endOfFields separator goesOn n (if n = 0 ∧ !goesOn then t else t.drop 1)
    | none =>
      endOfFields separator goesOn n ((t.dropWhile isShellBlank).dropWhile (!isShellBlank ·))

/-- The part of a line that is its key. -/
def part (k : SortKey) (separator : Option Char) (line : Text) : Text :=
  let t := afterFields separator k.start.1 line
  let t := (if k.skipsStart then t.dropWhile isShellBlank else t).drop k.start.2
  match k.finish with
  | none => t
  | some (field, count) =>
    let rest := if count = 0 then endOfFields separator false (field + 1) line
      else
        let t := endOfFields separator true field line
        (if k.skipsFinish then t.dropWhile isShellBlank else t).drop count
    t.take (t.length - rest.length)

/-- A count of fields or characters, and what follows it. -/
def readPlace (t : Text) : Option (Nat × Text) :=
  let digits := t.takeWhile Char.isDigit
  if digits.isEmpty then none else some (Text.digitsValue digits, t.drop digits.length)

/-- The letters that say how keys are compared. -/
def orderLetters : Text := "bdfghiMnRrV".toList

/-- The key that a text describes. -/
def ofText (t : Text) : Except Text SortKey :=
  let wrong (words : String) : Except Text SortKey :=
    .error (words.toList ++ ": invalid field specification ".toList ++ curled t)
  let character (t : Text) : Option (Option Nat × Text) := match t with
    | '.' :: rest => (readPlace rest).map fun (n, after) ↦ (some n, after)
    | t => some (none, t)
  match readPlace t with
  | none => .error ("invalid number at field start: invalid count at start of ".toList ++ curled t)
  | some (0, _) => wrong "field number is zero"
  | some (field, after) =>
    match character after with
    | none => .error ("invalid number after '.': invalid count at start of ".toList ++
        curled (after.drop 1))
    | some (some 0, _) => wrong "character offset is zero"
    | some (first, after) =>
      let letters := after.takeWhile (orderLetters.contains ·)
      let start := (field - 1, first.getD 1 - 1)
      let skips := letters.contains 'b'
      match after.drop letters.length with
      | [] => .ok ⟨start, none, skips, false, letters⟩
      | ',' :: rest =>
        match readPlace rest with
        | none => .error ("invalid number after ',': invalid count at start of ".toList ++
            curled rest)
        | some (0, _) => wrong "field number is zero"
        | some (field', after) =>
          match character after with
          | none => .error ("invalid number after '.': invalid count at start of ".toList ++
              curled (after.drop 1))
          | some (last, after) =>
            let letters' := after.takeWhile (orderLetters.contains ·)
            if letters'.length = after.length then
              .ok ⟨start, some (field' - 1, last.getD 0), skips, letters'.contains 'b',
                letters ++ letters'⟩
            else wrong "stray character in field spec"
      | _ => wrong "stray character in field spec"

/-- The key with options for all keys, where it has none of its own. -/
def within (k : SortKey) (letters : Text) : SortKey :=
  if k.letters.isEmpty then
    { k with letters, skipsStart := letters.contains 'b', skipsFinish := letters.contains 'b' }
  else k

end SortKey

/-- How lines are put in order. -/
structure LineOrder where
  /-- The keys. -/
  keys : List SortKey
  /-- What separates fields, if it is not blanks. -/
  separator : Option Char
  /-- The letters of the options for all keys. -/
  letters : Text
  /-- Whether lines with equal keys are told apart. -/
  isTotal : Bool

namespace LineOrder

/-- The parts of a line that are compared. -/
def parts (o : LineOrder) (line : Text) : List Text := o.keys.map fun k ↦ k.part o.separator line

/-- The order of the parts of two lines. -/
def compareParts : List SortKey → List Text → List Text → Ordering
  | k :: keys, a :: as, b :: bs => (compareBy k.letters a b).then (compareParts keys as bs)
  | _, _, _ => .eq

/-- The order of two lines that are given with their parts. -/
def compare (o : LineOrder) (a b : Text × List Text) : Ordering :=
  let order := compareParts o.keys a.2 b.2
  let last := compareOctets a.1 b.1
  order.then (if o.isTotal then (if o.letters.contains 'r' then last.swap else last) else .eq)

/-- Lines put in order. -/
def sort (o : LineOrder) (lines : List (Text × List Text)) : List (Text × List Text) :=
  lines.mergeSort fun a b ↦ o.compare a b != .gt

/-- The first lines of each row of lines that are equal. -/
def firsts (o : LineOrder) : List (Text × List Text) → List (Text × List Text)
  | [] => []
  | [a] => [a]
  | a :: b :: rest =>
    if o.compare a b = .eq then firsts o (a :: rest) else a :: firsts o (b :: rest)
termination_by lines => lines.length

/-- The number and the text of the first line that does not come after the one before it. -/
def disorder? (o : LineOrder) (strict : Bool) : Nat → List (Text × List Text) → Option (Nat × Text)
  | n, a :: b :: rest =>
    let order := o.compare a b
    if order = .gt ∨ (strict ∧ order = .eq) then some (n + 1, b.1)
    else disorder? o strict (n + 1) (b :: rest)
  | _, _ => none

end LineOrder

/-- The options of `sort`. -/
def sortForm : OptionForm := {
  name := "sort", plain := "bdfghiMnRrVcCmsuz", valued := "koStT", failure := 2
  long := [("ignore-leading-blanks", 'b'), ("dictionary-order", 'd'), ("ignore-case", 'f'),
    ("general-numeric-sort", 'g'), ("human-numeric-sort", 'h'), ("ignore-nonprinting", 'i'),
    ("month-sort", 'M'), ("numeric-sort", 'n'), ("random-sort", 'R'), ("reverse", 'r'),
    ("version-sort", 'V'), ("check", 'c'), ("check-silent", 'C'), ("merge", 'm'), ("stable", 's'),
    ("unique", 'u'), ("zero-terminated", 'z'), ("key", 'k'), ("output", 'o'), ("buffer-size", 'S'),
    ("field-separator", 't'), ("temporary-directory", 'T')] }

/-- The order that options describe. -/
def orderOf (c : Choices) : Except Text LineOrder :=
  let letters := (c.given.map (·.1)).filter (SortKey.orderLetters.contains ·)
  let separator : Except Text (Option Char) := match c.value? 't' with
    | none => .ok none
    | some [single] => .ok (some single)
    | some ['\\', '0'] => .ok (some '\x00')
    | some [] => .error "empty tab".toList
    | some t => .error ("multi-character tab ".toList ++ curled t)
  match separator, (c.values 'k').mapM SortKey.ofText with
  | .error message, _ => .error message
  | _, .error message => .error message
  | .ok separator, .ok keys =>
    let whole : SortKey := ⟨(0, 0), none, letters.contains 'b', false, letters⟩
    let keys := if keys.isEmpty then [whole] else keys.map (·.within letters)
    .ok ⟨keys, separator, letters, !c.has 's' && !c.has 'u'⟩

/-- The program `sort`. -/
def sortLines : Utility := fun arguments ↦ sortForm.choose arguments fun c ↦ do
  match orderOf c with
  | .error message => failOf "sort" 2 message
  | .ok o =>
    let ending := if c.has 'z' then '\x00' else '\n'
    let withParts (t : Text) : List (Text × List Text) :=
      (splitLines ending t).1.map fun line ↦ (line, o.parts line)
    let mut lines : List (Text × List Text) := []
    for name in orInput c.others do
      match ← readInput name with
      | .ok t => lines := lines ++ withParts t
      | .error f =>
        let words := if f = .isDirectory then "read failed: " else "cannot read: "
        return ← failOf "sort" 2 (words.toList ++ fileFault name f)
    if c.has 'c' ∨ c.has 'C' then
      match o.disorder? (c.has 'u') 1 lines with
      | none => return 0
      | some (n, line) =>
        if !c.has 'C' then
          tellOf "sort" (c.others.headD ['-'] ++ ':' :: shown n ++ ": disorder: ".toList ++ line)
        return 1
    let sorted := o.sort lines
    let sorted := if c.has 'u' then o.firsts sorted else sorted
    let text := sorted.flatMap fun e ↦ e.1 ++ [ending]
    match c.value? 'o' with
    | none =>
      put text
      return 0
    | some name =>
      match ← writeFile .writing name text with
      | .ok () => return 0
      | .error f => failOf "sort" 2 ("open failed: ".toList ++ fileFault name f)

/-! ### Repetitions -/

/-- Rows of lines that are equal in what is compared of them. -/
def rowsBy (key : Text → Text) : List Text → List (List Text)
  | [] => []
  | line :: rest =>
    match rowsBy key rest with
    | (next :: row) :: rows =>
      if key line = key next then (line :: next :: row) :: rows else [line] :: (next :: row) :: rows
    | rows => [line] :: rows

/-- The part of a line that is compared: after some fields and characters, up to a width. -/
def comparedPart (fields characters : Nat) (width : Option Nat) (eitherCase : Bool) (line : Text) :
    Text :=
  let t := (SortKey.afterFields none fields line).drop characters
  let t := match width with
    | some n => t.take n
    | none => t
  if eitherCase then t.map Char.toLower else t

/-- What is written for rows of lines that are equal. -/
def writeRows (c : Choices) (ending : Char) (rows : List (List Text)) : Text :=
  let ended (line : Text) : Text := line ++ [ending]
  match (c.value? 'g').or (if c.has 'g' then some "separate".toList else none) with
  | some method =>
    let whole := rows.map fun row ↦ row.flatMap ended
    match String.ofList method with
    | "prepend" => whole.flatMap ([ending] ++ ·)
    | "append" => whole.flatMap (· ++ [ending])
    | "both" => if whole.isEmpty then [] else ending :: whole.flatMap (· ++ [ending])
    | _ => [ending].intercalate whole
  | none =>
    let all := c.has 'D'
    let rows := rows.filter fun row ↦
      (!(c.has 'd' || all) || 1 < row.length) && (!c.has 'u' || row.length = 1)
    if all then
      let whole := rows.map fun row ↦ row.flatMap ended
      match String.ofList ((c.value? 'D').getD "none".toList) with
      | "prepend" => whole.flatMap ([ending] ++ ·)
      | "separate" => [ending].intercalate whole
      | _ => whole.flatten
    else rows.flatMap fun row ↦
      (if c.has 'c' then padStart 7 (shown row.length) ++ [' '] else []) ++ ended (row.headD [])

/-- The program `uniq`. -/
def writeOnce : Utility :=
  let form : OptionForm := {
    name := "uniq", plain := "cdiuz", valued := "fsw", optional := "Dg"
    long := [("count", 'c'), ("repeated", 'd'), ("all-repeated", 'D'), ("skip-fields", 'f'),
      ("group", 'g'), ("ignore-case", 'i'), ("skip-chars", 's'), ("unique", 'u'),
      ("zero-terminated", 'z'), ("check-chars", 'w')] }
  fun arguments ↦ form.choose arguments fun c ↦ do
    let wrong (letter : Char) (kind : String) : Act Nat :=
      failOf "uniq" 1 (((c.value? letter).getD []) ++ ": invalid number of ".toList ++ kind.toList)
    match numberOf? c 'f' 0, numberOf? c 's' 0, numberOf? c 'w' 0 with
    | none, _, _ => wrong 'f' "fields to skip"
    | _, none, _ => wrong 's' "bytes to skip"
    | _, _, none => wrong 'w' "bytes to compare"
    | some fields, some characters, some width =>
      match c.others with
      | _ :: _ :: extra :: _ => form.misuse ("extra operand ".toList ++ quotedName extra)
      | names =>
        match ← readInput (names.headD ['-']) with
        | .error f =>
          failOf "uniq" 1 (if f = .isDirectory then
            "error reading ".toList ++ quotedName (names.headD ['-']) ++ ": ".toList ++ f.words
            else fileFault (names.headD ['-']) f)
        | .ok t =>
          let ending := if c.has 'z' then '\x00' else '\n'
          let width? := if c.has 'w' then some width else none
          let key := comparedPart fields characters width? (c.has 'i')
          let text := writeRows c ending (rowsBy key (splitLines ending t).1)
          match names.drop 1 with
          | [] =>
            put text
            return 0
          | name :: _ =>
            if name = ['-'] then
              put text
              return 0
            match ← writeFile .writing name text with
            | .ok () => return 0
            | .error f => failOf "uniq" 1 (fileFault name f)

end CommandScript.Shell
