import CommandScript.Text.Lines
import CommandScript.Text.Quoted

/-!
# Environment files

A file of **bindings**, one to a line: a name, an equals sign and a value, with blanks around each
and perhaps the word `export` in front. A value is bare, and then ends before a comment or at the
end of the line, or it stands in single or double quotes, in which some characters are written with
a backslash. A name without an equals sign is bound to nothing. A line that is no binding is skipped
and reported by its number.
-/
namespace CommandScript.EnvFile

/-- One binding of a name. -/
abbrev Binding := Text × Option Text

/-- Whether a character is a blank within a line. -/
def isInlineBlank (c : Char) : Bool := Text.isBlank c && c != '\n' && c != '\r'

/-- The text after the blanks of its line. -/
def skipBlanks (t : Text) : Text := t.dropWhile isInlineBlank

/-- The text from the next line on. -/
def skipLine (t : Text) : Text := (t.dropWhile (· != '\n')).drop 1

/-- The text after the word `export` and the blanks behind it, where it opens with them. -/
def skipExport (t : Text) : Text :=
  match Text.dropStart? "export".toList t with
  | some rest => if (rest.head?.map isInlineBlank).getD false then skipBlanks rest else t
  | none => t

/-- What stands up to the closing quote, and the text after it. A character after a backslash never
closes. -/
def splitQuoted (quote : Char) : Text → Option (Text × Text)
  | [] => none
  | [c] => if c = quote then some ([], []) else none
  | c :: d :: rest =>
    if c = quote then some ([], d :: rest)
    else if c = '\\' then
      (splitQuoted quote rest).map fun (inside, after) ↦ (c :: d :: inside, after)
    else (splitQuoted quote (d :: rest)).map fun (inside, after) ↦ (c :: inside, after)

/-- The character that a letter after a backslash stands for between double quotes. -/
def doubleEscape? (c : Char) : Option Char :=
  [('\\', '\\'), (Text.singleQuote, Text.singleQuote), (Text.doubleQuote, Text.doubleQuote),
    ('a', '\x07'), ('b', '\x08'), ('f', '\x0C'), ('n', '\n'), ('r', '\r'), ('t', '\t'),
    ('v', '\x0B')].lookup c

/-- The character that a character after a backslash stands for between single quotes. -/
def singleEscape? (c : Char) : Option Char :=
  [('\\', '\\'), (Text.singleQuote, Text.singleQuote)].lookup c

/-- A text with its escapes replaced; a backslash that escapes nothing stays. -/
def unescape (escape? : Char → Option Char) : Text → Text
  | [] => []
  | [c] => [c]
  | c :: d :: rest =>
    if c = '\\' then
      match escape? d with
      | some e => e :: unescape escape? rest
      | none => c :: unescape escape? (d :: rest)
    else c :: unescape escape? (d :: rest)

/-- The rest of a line without the comment at its end: blanks and a number sign open one. -/
def cutComment : Text → Text
  | [] => []
  | c :: rest =>
    if Text.isBlank c ∧ ((c :: rest).dropWhile Text.isBlank).head? = some '#' then []
    else c :: cutComment rest

/-- What one part of a binding reads: its value and the text after it, or the text at which the
binding fails. -/
abbrev Part (α : Type) := Except Text (α × Text)

/-- Reads a name. A comment has none. -/
def readName (t : Text) : Part (Option Text) :=
  match t with
  | [] => .error t
  | c :: rest =>
    if c = '#' then .ok (none, t)
    else if c = Text.singleQuote then
      let name := rest.takeWhile (· != Text.singleQuote)
      match rest.dropWhile (· != Text.singleQuote) with
      | _ :: after => if name.isEmpty then .error t else .ok (some name, after)
      | [] => .error t
    else
      let within := fun c ↦ c != '=' && c != '#' && !Text.isBlank c
      let name := t.takeWhile within
      if name.isEmpty then .error t else .ok (some name, t.dropWhile within)

/-- Reads a value, given the text after the equals sign. -/
def readValue (t : Text) : Part Text :=
  match skipBlanks t with
  | [] => .ok ([], [])
  | c :: rest =>
    if c = Text.singleQuote then
      match splitQuoted c rest with
      | some (inside, after) => .ok (unescape singleEscape? inside, after)
      | none => .error (c :: rest)
    else if c = Text.doubleQuote then
      match splitQuoted c rest with
      | some (inside, after) => .ok (unescape doubleEscape? inside, after)
      | none => .error (c :: rest)
    else .ok (Text.trim (cutComment (t.takeWhile (· != '\n'))), t.dropWhile (· != '\n'))

/-- Reads an equals sign and the value after it, where there is one. -/
def readAssignment (t : Text) : Part (Option Text) :=
  match skipBlanks t with
  | '=' :: rest => (readValue rest).map fun (value, after) ↦ (some value, after)
  | t => .ok (none, t)

/-- Reads the rest of the line, which may hold a comment and nothing else. -/
def readLineEnd (t : Text) : Part Unit :=
  let t := match skipBlanks t with
    | '#' :: rest => rest.dropWhile (· != '\n')
    | _ => t
  match skipBlanks t with
  | [] => .ok ((), [])
  | '\n' :: rest => .ok ((), rest)
  | _ => .error t

/-- Reads a binding from its first character on. -/
def readBinding (t : Text) : Part (Option Binding) :=
  match readName (skipExport t) with
  | .error failed => .error failed
  | .ok (name, t) =>
    match readAssignment t with
    | .error failed => .error failed
    | .ok (value, t) =>
      match readLineEnd t with
      | .error failed => .error failed
      | .ok ((), t) => .ok (name.map fun name ↦ (name, value), t)

/-- What a text says, from one line to the next: a binding, or the number of a line that holds
none. -/
abbrev Statement := Except Nat Binding

/-- The number of line feeds in a text. -/
def lineFeeds (t : Text) : Nat := t.count '\n'

/-- The statements of a text whose first line has a number. A statement starts where the one before
it has ended, empty lines included. -/
def statements (line : Nat) (t : Text) : List Statement :=
  match t.dropWhile Text.isBlank with
  | [] => []
  | start =>
    let (found, rest) := match readBinding start with
      | .ok (binding, rest) => (binding.toList.map Except.ok, rest)
      | .error failed => ([Except.error line], skipLine failed)
    if rest.length < t.length then
      found ++ statements (line + (lineFeeds t - lineFeeds rest)) rest
    else found
termination_by t.length

/-- The bindings with a new one, which takes the place of an older one of the same name. -/
def bind (bs : List Binding) (b : Binding) : List Binding :=
  if bs.any (·.1 = b.1) then bs.map fun old ↦ if old.1 = b.1 then b else old else bs ++ [b]

/-- A text without a byte order mark at its start. -/
def withoutMark : Text → Text
  | '\uFEFF' :: rest => rest
  | t => t

/-- What reading an environment file comes to. -/
structure Reading where
  /-- What each name is bound to at last, by the order in which the names come up. -/
  bindings : List Binding
  /-- The numbers of the lines that hold no binding. -/
  skipped : List Nat
  deriving DecidableEq, Repr

/-- Reads the text of an environment file. -/
def parse (t : Text) : Reading :=
  let found := statements 1 (Text.unifyLineEnds (withoutMark t))
  ⟨(found.filterMap Except.toOption).foldl bind [],
    found.filterMap fun | .error line => some line | .ok _ => none⟩

/-- The message about a line that holds no binding. -/
def skippedMessage (line : Nat) : Text :=
  "python-dotenv could not parse statement starting at line ".toList ++ (toString line).toList

end CommandScript.EnvFile
