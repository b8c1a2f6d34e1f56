import CommandScript.Shell.Opening

/-!
# What programs share

A **program** is a utility that a shell finds by its path. Its options may stand anywhere among its
arguments, as letters or as long names that can be cut short. What programs say of files shows their
names between quotes where they need that, and begins with the name of the program.
-/
namespace CommandScript.Shell

/-! ### Options -/

/-- The **options** that a program knows. -/
structure OptionForm where
  /-- The name of the program. -/
  name : String
  /-- The letters of the options without a value. -/
  plain : String := ""
  /-- The letters of the options with a value. -/
  valued : String := ""
  /-- The letters of the options that may have a value right behind them. -/
  optional : String := ""
  /-- The long names of options, with their letters. -/
  long : List (String × Char) := []
  /-- The status of a wrong use. -/
  failure : Nat := 1
  /-- Whether the options end at the first argument that is none. -/
  inFront : Bool := false

/-- The options that have been given to a program, and its other arguments. -/
structure Choices where
  /-- The letters of the options in order, with their values. -/
  given : List (Char × Option Text)
  /-- The other arguments. -/
  others : List Text
  deriving DecidableEq, Repr

namespace Choices

/-- Whether an option has been given. -/
def has (c : Choices) (letter : Char) : Bool := c.given.any fun e ↦ e.1 = letter

/-- The last value of an option. -/
def value? (c : Choices) (letter : Char) : Option Text :=
  ((c.given.filter fun e ↦ e.1 = letter).getLast?).bind Prod.snd

/-- All values of an option. -/
def values (c : Choices) (letter : Char) : List Text :=
  (c.given.filter fun e ↦ e.1 = letter).filterMap Prod.snd

/-- The one of some options that has been given last. -/
def last? (c : Choices) (letters : String) : Option Char :=
  ((c.given.filter fun e ↦ letters.toList.contains e.1).getLast?).map Prod.fst

end Choices

namespace OptionForm

/-- Whether an option takes a value. -/
def takesValue (f : OptionForm) (letter : Char) : Bool := f.valued.toList.contains letter

/-- Whether an option may have a value. -/
def mayTakeValue (f : OptionForm) (letter : Char) : Bool := f.optional.toList.contains letter

/-- The letters of one argument as options, where the rest of it or the next argument is the value
of one that takes a value. -/
def readLetters (f : OptionForm) : Text → List Text →
    Except Text (List (Char × Option Text) × List Text)
  | [], rest => .ok ([], rest)
  | c :: letters, rest =>
    if f.takesValue c then
      match letters, rest with
      | [], [] => .error ("option requires an argument -- '".toList ++ [c, Text.singleQuote])
      | [], value :: rest => .ok ([(c, some value)], rest)
      | value, rest => .ok ([(c, some value)], rest)
    else if f.mayTakeValue c then
      .ok ([(c, if letters.isEmpty then none else some letters)], rest)
    else if f.plain.toList.contains c then
      (readLetters f letters rest).map fun (given, rest) ↦ ((c, none) :: given, rest)
    else .error ("invalid option -- '".toList ++ [c, Text.singleQuote])

/-- The option of a long name, which may be cut short as long as it is clear which one is meant. -/
def longOption (f : OptionForm) (name : Text) : Except Text Char :=
  match f.long.find? fun e ↦ e.1.toList = name with
  | some e => .ok e.2
  | none =>
    match f.long.filter fun e ↦ name.isPrefixOf e.1.toList with
    | [] => .error ("unrecognized option '--".toList ++ name ++ [Text.singleQuote])
    | e :: others =>
      if others.all fun o ↦ o.2 = e.2 then .ok e.2
      else .error ("option '--".toList ++ name ++ "' is ambiguous; possibilities:".toList ++
        (e :: others).flatMap fun o ↦ " '--".toList ++ o.1.toList ++ [Text.singleQuote])

/-- Reads the arguments of a program. -/
def read (f : OptionForm) : Nat → List Text → Except Text Choices
  | 0, rest => .ok ⟨[], rest⟩
  | n + 1, arguments =>
    let goOn (given : List (Char × Option Text)) (rest : List Text) : Except Text Choices :=
      (read f n rest).map fun c ↦ { c with given := given ++ c.given }
    match arguments with
    | [] => .ok ⟨[], []⟩
    | ['-', '-'] :: rest => .ok ⟨[], rest⟩
    | ('-' :: '-' :: word) :: rest =>
      let name := word.takeWhile (· != '=')
      match f.longOption name, word.drop name.length with
      | .error message, _ => .error message
      | .ok letter, _ :: value =>
        if f.takesValue letter ∨ f.mayTakeValue letter then goOn [(letter, some value)] rest
        else .error ("option '--".toList ++ name ++ "' doesn't allow an argument".toList)
      | .ok letter, [] =>
        if f.takesValue letter then
          match rest with
          | value :: rest => goOn [(letter, some value)] rest
          | [] => .error ("option '--".toList ++ name ++ "' requires an argument".toList)
        else goOn [(letter, none)] rest
    | ('-' :: c :: letters) :: rest =>
      match f.readLetters (c :: letters) rest with
      | .ok (given, rest) => goOn given rest
      | .error message => .error message
    | word :: rest =>
      if f.inFront then .ok ⟨[], word :: rest⟩
      else (read f n rest).map fun c ↦ { c with others := word :: c.others }

/-- Tells that a program has been used in a wrong way. -/
def misuse (f : OptionForm) (message : Text) : Act Nat := do
  tell (f.name.toList ++ ": ".toList ++ message ++ "\nTry '".toList ++ f.name.toList ++
    " --help' for more information.\n".toList)
  return f.failure

/-- Goes on with the options and arguments of a program, if they are right. -/
def choose (f : OptionForm) (arguments : List Text) (act : Choices → Act Nat) : Act Nat := do
  match f.read (arguments.length + 1) arguments with
  | .ok c => act c
  | .error message => f.misuse message

end OptionForm

/-- Tells something in the name of a program. -/
def tellOf (name : String) (message : Text) : Act Unit :=
  tellLine (name.toList ++ ": ".toList ++ message)

/-- Tells something in the name of a program, and gives a status. -/
def failOf (name : String) (status : Nat) (message : Text) : Act Nat := do
  tellOf name message
  return status

/-! ### Names of files in messages -/

/-- Whether a character can only be shown by an escape. -/
def isHidden (c : Char) : Bool :=
  c.toNat < 0x20 || c.toNat = 0x7F || isStray c

/-- The escape of a character that is not shown. -/
def hiddenEscape (c : Char) : Text :=
  match controlLetters.lookup c with
  | some letter => ['\\', letter]
  | none =>
    let n := if strayMark ≤ c.toNat then c.toNat - strayMark else c.toNat
    let digits := digitsIn 8 n
    '\\' :: List.replicate (3 - digits.length) '0' ++ digits

/-- The inside of a quoted name, with each row of hidden characters in quotes of its own. -/
def quotedInside : Bool → Text → Text
  | _, [] => [Text.singleQuote]
  | within, c :: rest =>
    if isHidden c then
      (if within then [] else "'$'".toList) ++ hiddenEscape c ++ quotedInside true rest
    else
      (if within then "''".toList else []) ++
        (if c = Text.singleQuote then "'\\''".toList else [c]) ++ quotedInside false rest

/-- A name between quotes. -/
def quotedName (name : Text) : Text :=
  let t := wide name
  if t.contains Text.singleQuote ∧ !t.any fun c ↦ isHidden c || "\"$\x60\\!".toList.contains c then
    '"' :: name ++ ['"']
  else narrow (Text.singleQuote :: quotedInside false t)

/-- Whether a name is not shown as it stands. -/
def needsQuotes (name : Text) : Bool :=
  name.isEmpty || name.head? = some '#' || name.head? = some '~' ||
    (wide name).any fun c ↦ isHidden c || " !\"$&'()*;<=>?[\\^\x60|".toList.contains c

/-- A name between quotes where it needs them. -/
def shownName (name : Text) : Text := if needsQuotes name then quotedName name else name

/-- A name of a file before a colon, between quotes where it needs them. -/
def shownFile (name : Text) : Text :=
  if needsQuotes name ∨ name.contains ':' then quotedName name else name

/-- A text with another one in the place of each part that is a mark. -/
def replaceMark (mark value t : Text) : Text := go t.length t
where
  /-- The text with its marks replaced, up to a number of characters. -/
  go : Nat → Text → Text
    | 0, t => t
    | _, [] => []
    | n + 1, c :: rest =>
      match if mark.isEmpty then none else Text.dropStart? mark (c :: rest) with
      | some after => value ++ go n after
      | none => c :: go n rest

/-- A name in a directory as a path. -/
def pathIn (directory name : Text) : Text :=
  if directory.getLast? = some '/' then directory ++ name else directory ++ '/' :: name

/-- The words for a fault that a program has met with a file. -/
def fileFault (name : Text) (f : FileFault) : Text := shownFile name ++ ": ".toList ++ f.words

/-! ### Numbers -/

/-- The factors that letters behind a number stand for. -/
def factorNames : List (String × Nat) := [
  ("b", 512), ("K", 1024), ("k", 1024), ("kB", 1000), ("KB", 1000), ("KiB", 1024),
  ("M", Nat.pow 1024 2), ("MB", Nat.pow 1000 2), ("MiB", Nat.pow 1024 2), ("m", Nat.pow 1024 2),
  ("G", Nat.pow 1024 3), ("GB", Nat.pow 1000 3), ("GiB", Nat.pow 1024 3), ("T", Nat.pow 1024 4),
  ("TB", Nat.pow 1000 4), ("TiB", Nat.pow 1024 4)]

/-- The number that digits with a factor behind them spell. -/
def sizedNumber? (t : Text) : Option Nat :=
  let digits := t.takeWhile Char.isDigit
  let name := String.ofList (t.drop digits.length)
  if digits.isEmpty then none
  else if name = "" then some (Text.digitsValue digits)
  else (factorNames.lookup name).map fun factor ↦ Text.digitsValue digits * factor

/-- The number that an option gives, or a default one. -/
def numberOf? (c : Choices) (letter : Char) (default : Nat) : Option Nat :=
  match c.value? letter with
  | none => some default
  | some t => naturalNumber? t

/-! ### Inputs -/

/-- Reads all of a file, where a hyphen stands for the input. -/
def readInput (name : Text) : Act (Except FileFault Text) :=
  if name = ['-'] then readAll 0 else readFile name

/-- The names of files, or a hyphen for the input where there are none. -/
def orInput (names : List Text) : List Text := if names.isEmpty then [['-']] else names

/-- Reads files, or the input where none is named, one after the other, and does something with the
text of each. Those that cannot be read are told. Gives whether all could be read. -/
def eachInput (program : String) (words : Text → FileFault → Text) (names : List Text)
    (act : Text → Text → Act Unit) : Act Bool := do
  let mut isWhole := true
  for name in orInput names do
    match ← readInput name with
    | .ok t => act name t
    | .error f =>
      tellOf program (words name f)
      isWhole := false
  return isWhole

/-- Reads files, or the input where none is named. Those that cannot be read are told. Gives the
names and texts of the others, and whether all could be read. -/
def readInputs (program : String) (words : Text → FileFault → Text) (names : List Text) :
    Act (List (Text × Text) × Bool) := do
  let mut found : List (Text × Text) := []
  let mut isWhole := true
  for name in orInput names do
    match ← readInput name with
    | .ok t => found := (name, t) :: found
    | .error f =>
      tellOf program (words name f)
      isWhole := false
  return (found.reverse, isWhole)

/-- Writes what a function makes of the text of files, and gives a status. -/
def filterInputs (program : String) (names : List Text) (change : Text → Text) : Act Nat := do
  let (inputs, isWhole) ← readInputs program fileFault names
  put (change (inputs.flatMap (·.2)))
  return if isWhole then 0 else 1

/-- The lines of a text, without what ends them, and whether the last one is ended too. -/
def splitLines (ending : Char) (t : Text) : List Text × Bool :=
  match (Text.fields ending t).reverse with
  | [] :: rest => (rest.reverse, true)
  | parts => (parts.reverse, false)

/-- The lines of a text with what ends them; only the last one may lack that. -/
def wholeLines (ending : Char) (t : Text) : List Text :=
  match splitLines ending t with
  | (lines, true) => lines.map (· ++ [ending])
  | (lines, false) => lines.dropLast.map (· ++ [ending]) ++ lines.getLast?.toList

end CommandScript.Shell
