import CommandScript.Shell.Program.RuleScript.Tree
import CommandScript.Shell.Program.RuleScript.Value

/-!
# The signs of rule scripts

A script is cut into signs. A slash starts an expression where no value has come before it, and is a
division otherwise. The end of a line is a sign of its own, unless a backslash stands before it.
-/
namespace CommandScript.Shell.RuleScript

/-- A **place** in the sources of a script. -/
structure SignPlace where
  /-- The name of the source, if it has one. -/
  source : Option Text
  /-- The line. -/
  line : Nat

/-- A **sign** of a script. -/
inductive Sign where
  /-- A number, with its spelling. -/
  | number (x : Float) (t : Text)
  /-- A text between quotes. -/
  | text (t : Text)
  /-- The source of an expression between slashes. -/
  | pattern (t : Text)
  /-- A name. -/
  | name (t : Text)
  /-- A name with a parenthesis right behind it. -/
  | called (t : Text)
  /-- A word of the language. -/
  | word (t : String)
  /-- A mark. -/
  | mark (t : String)
  /-- The end of a line. -/
  | line
  /-- The end of the script. -/
  | finish
  /-- Something that is no sign, with what is said about it, and whether it is the last that is
  said. -/
  | flaw (words : Text) (isLast : Bool)

namespace Sign

/-- The words of the language, apart from the names of routines. -/
def words : List String := [
  "BEGIN", "END", "function", "func", "if", "else", "while", "for", "do", "break", "continue",
  "next", "nextfile", "exit", "return", "delete", "in", "getline", "print", "printf"]

/-- The marks, longer ones before shorter ones. -/
def marks : List String := [
  "&&", "||", "++", "--", "+=", "-=", "*=", "/=", "%=", "^=", "==", "!=", "<=", ">=", ">>", "!~",
  "\x7b", "\x7d", "(", ")", "[", "]", ";", ",", "+", "-", "*", "/", "%", "^", "!", ">", "<", "|",
  "?", ":", "~", "$", "="]

/-- Whether a division may come behind a sign. -/
def endsValue : Sign → Bool
  | .number _ _ => true
  | .text _ => true
  | .pattern _ => true
  | .name _ => true
  | .word t => !words.contains t
  | .mark t => t = ")" || t = "]" || t = "$"
  | _ => false

/-- A sign as it is shown where it is not expected. -/
def shown : Sign → Text
  | .number _ t => t
  | .text t => t
  | .pattern t => '/' :: t ++ ['/']
  | .name t => t
  | .called t => t
  | .word t => t.toList
  | .mark t => t.toList
  | .line => "end of line".toList
  | .finish => "end of file".toList
  | .flaw words _ => words

end Sign

/-- A text of a script with its escapes replaced. An escape that is not known stays. -/
def unescape : Nat → Text → Text
  | 0, _ => []
  | _, [] => []
  | n + 1, '\\' :: c :: rest =>
    let known : List (Char × Char) := [('"', '"'), ('\\', '\\'), ('a', '\x07'),
      ('b', '\x08'), ('f', '\x0C'), ('n', '\n'), ('r', '\r'), ('t', '\t'), ('v', '\x0B')]
    match known.lookup c with
    | some d => d :: unescape n rest
    | none =>
      let (value, digits, after) :=
        if c = 'x' then takeNumber 16 2 0 0 rest else takeNumber 8 3 0 0 (c :: rest)
      if digits = 0 then '\\' :: c :: unescape n rest
      else octalOctet value :: unescape n after
  | n + 1, c :: rest => c :: unescape n rest

/-- The text up to a quote, as it is written, and what follows; nothing where a line ends before. -/
def quotedPart : Nat → Text → Text → Option (Text × Text)
  | 0, _, _ => none
  | _, _, [] => none
  | n + 1, t, '\\' :: '\n' :: rest => quotedPart n t rest
  | n + 1, t, '\\' :: c :: rest => quotedPart n (c :: '\\' :: t) rest
  | n + 1, t, c :: rest =>
    if c = '"' then some (t.reverse, rest)
    else if c = '\n' then none
    else quotedPart n (c :: t) rest

/-- The source of an expression up to a slash that is not in a set, and what follows. A slash with a
backslash before it belongs to the expression. -/
def patternPart : Nat → Bool → Text → Text → Option (Text × Text)
  | 0, _, _, _ => none
  | _, _, _, [] => none
  | n + 1, inSet, t, '\\' :: c :: rest =>
    patternPart n inSet (if c = '/' then c :: t else c :: '\\' :: t) rest
  | n + 1, inSet, t, c :: rest =>
    if c = '/' ∧ !inSet then some (t.reverse, rest)
    else if c = '\n' then none
    else
      let starts := c = '[' && !inSet
      let closes := c = ']' && inSet && t.head? != some '[' &&
        !(t.head? = some '^' && t[1]? = some '[')
      patternPart n ((inSet || starts) && !closes) (c :: t) rest

/-- The sign at the start of a text, and what follows it. -/
def signAt (before : Option Sign) (t : Text) : Sign × Text :=
  match t with
  | [] => (.finish, [])
  | c :: rest =>
    if c = '\n' then (.line, rest)
    else if c = '"' then
      match quotedPart (t.length + 1) [] rest with
      | some (inner, after) => (.text (unescape (inner.length + 1) inner), after)
      | none =>
        (.flaw ("runaway string constant \"".toList ++ (rest.takeWhile (· != '\n')).take 10 ++
          " ...".toList) true, [])
    else if c = '/' ∧ !(before.any Sign.endsValue) then
      match patternPart (t.length + 1) false [] rest with
      | some (inner, after) => (.pattern inner, after)
      | none =>
        (.flaw ("runaway regular expression /".toList ++ (rest.takeWhile (· != '\n')).take 10 ++
          " ...".toList) true, [])
    else if c.isDigit ∨ (c = '.' ∧ rest.head?.any Char.isDigit) then
      match decimalNumber? t with
      | some (x, after) => (.number x (t.take (t.length - after.length)), after)
      | none => (.flaw [c] false, rest)
    else if opensName c then
      let name := t.takeWhile withinName
      let after := t.drop name.length
      let isWord := Sign.words.contains (String.ofList name) ||
        (Routine.table.lookup (String.ofList name)).isSome
      if isWord then
        (.word (if name = "func".toList then "function" else String.ofList name), after)
      else if after.head? = some '(' then (.called name, after) else (.name name, after)
    else
      match Sign.marks.find? fun m ↦ m.toList.isPrefixOf t with
      | some m => (.mark m, t.drop m.length)
      | none => (.flaw ("unexpected character '".toList ++ [c, Text.singleQuote]) false, rest)

/-- A text without the blanks, comments and joined line ends at its start, and how many line ends
there are among them. -/
def skipGap : Nat → Nat → Text → Text × Nat
  | 0, lines, t => (t, lines)
  | n + 1, lines, t =>
    match t with
    | '\\' :: '\n' :: rest => skipGap n (lines + 1) rest
    | '\\' :: '\r' :: '\n' :: rest => skipGap n (lines + 1) rest
    | '#' :: rest => (rest.dropWhile (· != '\n'), lines)
    | c :: rest => if c = ' ' ∨ c = '\t' ∨ c = '\r' then skipGap n lines rest else (t, lines)
    | [] => ([], lines)

/-- The signs of a source, each with its line, and the line where it ends. -/
def signs : Nat → Option Sign → Nat → Text → List (Sign × Nat) × Nat
  | 0, _, line, _ => ([], line)
  | n + 1, before, line, t =>
    let (t, joined) := skipGap t.length 0 t
    let line := line + joined
    match signAt before t with
    | (.finish, _) => ([], line)
    | (s, rest) =>
      let isEnd : Bool := s matches .line
      let (all, final) := signs n (some s) (if isEnd then line + 1 else line) rest
      ((s, line) :: all, final)

/-- The signs of a script of several sources, some of which have names. Its last line is ended. -/
def signsOf (before : Option Sign) : List (Option Text × Text) → List (Sign × SignPlace)
  | [] => []
  | (name, t) :: rest =>
    let (all, final) := signs (t.length + 2) before 1 t
    let placed := all.map fun (s, line) ↦ (s, (⟨name, line⟩ : SignPlace))
    let last := ((all.getLast?).map (·.1)).or before
    placed ++ (if rest.isEmpty then [(.line, ⟨name, final⟩), (.finish, ⟨name, final + 1⟩)]
      else signsOf last rest)

end CommandScript.Shell.RuleScript
