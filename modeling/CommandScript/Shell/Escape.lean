import CommandScript.Shell.Octets

/-!
# Escapes of the shell

An **escape** is a sequence after a backslash that stands for an octet or a character. Quoted words
with a dollar sign in front, `echo`, the arguments of `printf` and its formats know nearly the same
escapes; an `EscapeStyle` says where they differ.
-/
namespace CommandScript.Shell

/-- The value of a hexadecimal digit. -/
def hexValue? (c : Char) : Option Nat :=
  if c.isDigit then some (c.toNat - '0'.toNat)
  else if 'a' ≤ c ∧ c ≤ 'f' then some (c.toNat - 'a'.toNat + 10)
  else if 'A' ≤ c ∧ c ≤ 'F' then some (c.toNat - 'A'.toNat + 10)
  else none

/-- The number that at most a count of digits in a base spells, how many digits there are, and what
follows them. -/
def takeNumber (base : Nat) : Nat → Nat → Nat → Text → Nat × Nat × Text
  | 0, value, taken, t => (value, taken, t)
  | _, value, taken, [] => (value, taken, [])
  | count + 1, value, taken, c :: rest =>
    match (hexValue? c).filter (· < base) with
    | some d => takeNumber base count (value * base + d) (taken + 1) rest
    | none => (value, taken, c :: rest)

/-- Which escapes are known. -/
structure EscapeStyle where
  /-- Whether an octal number needs a zero in front, or may have one more digit with it. -/
  zeroFirst : Bool
  /-- Whether an octal number may stand without a zero in front. -/
  bareOctal : Bool
  /-- Whether the quotes and the question mark have escapes. -/
  signs : Bool
  /-- Whether a letter `e` is the escape character, and `x` and `u` open hexadecimal numbers. -/
  extended : Bool
  deriving DecidableEq, Repr

/-- The escapes of `echo`. -/
def EscapeStyle.echoed : EscapeStyle := ⟨true, false, false, true⟩

/-- The escapes of an argument of `printf`. -/
def EscapeStyle.argument : EscapeStyle := ⟨true, true, false, true⟩

/-- The escapes of a format, and of a quoted word after a dollar sign. -/
def EscapeStyle.quoted : EscapeStyle := ⟨false, true, true, true⟩

/-- The escapes of the standard, which have no hexadecimal numbers. -/
def EscapeStyle.standard : EscapeStyle := ⟨true, true, false, false⟩

/-- The escapes of a single letter. -/
def letterEscapes : List (Char × Char) := [
  ('a', '\x07'), ('b', '\x08'), ('f', '\x0C'), ('n', '\n'), ('r', '\r'), ('t', '\t'),
  ('v', '\x0B'), ('\\', '\\')]

/-- The escapes of a single sign. -/
def signEscapes : List (Char × Char) := [
  (Text.singleQuote, Text.singleQuote), (Text.doubleQuote, Text.doubleQuote), ('?', '?')]

/-- What an escape comes to: its octets, what follows it, and what lacks, if digits do. -/
structure Escaped where
  /-- The octets. -/
  octets : Text
  /-- What follows the escape. -/
  rest : Text
  /-- The complaint about digits that lack. -/
  complaint : Option String
  deriving DecidableEq, Repr

/-- The octet of an octal number. -/
def octalOctet (n : Nat) : Char := Char.ofNat (n % 256)

/-- The octets of the character of a number. -/
def numberedCharacter (n : Nat) : Text :=
  if 0x80 ≤ n ∧ (Char.ofNat n).toNat = 0 then [] else toOctets [Char.ofNat n]

/-- The escape that a text after a backslash opens with. -/
def escapeAfter (style : EscapeStyle) : Text → Escaped
  | [] => ⟨['\\'], [], none⟩
  | c :: rest =>
    let unknown : Escaped := ⟨['\\', c], rest, none⟩
    if c = 'x' ∧ style.extended then
      match takeNumber 16 2 0 0 rest with
      | (_, 0, _) => { unknown with complaint := some "missing hex digit for \\x" }
      | (n, _, after) => ⟨[Char.ofNat n], after, none⟩
    else if (c = 'u' ∨ c = 'U') ∧ style.extended then
      match takeNumber 16 (if c = 'u' then 4 else 8) 0 0 rest with
      | (_, 0, _) =>
        { unknown with complaint := some (if c = 'u' then "missing unicode digit for \\u"
          else "missing unicode digit for \\U") }
      | (n, _, after) => ⟨numberedCharacter n, after, none⟩
    else if c = '0' ∧ style.zeroFirst then
      let (n, _, after) := takeNumber 8 3 0 0 rest
      ⟨[octalOctet n], after, none⟩
    else if '0' ≤ c ∧ c ≤ '7' ∧ style.bareOctal then
      let (n, _, after) := takeNumber 8 3 0 0 (c :: rest)
      ⟨[octalOctet n], after, none⟩
    else if c = 'e' ∨ (c = 'E' ∧ style.extended) then ⟨['\x1B'], rest, none⟩
    else match (letterEscapes.lookup c).or (if style.signs then signEscapes.lookup c else none) with
      | some e => ⟨[e], rest, none⟩
      | none => unknown

/-- A text with its escapes replaced, whether the escape that ends all output is not in it, and the
complaints about its escapes. -/
def replaceEscapes (style : EscapeStyle) : Nat → Text → Text × Bool × List String
  | 0, t => (t, true, [])
  | _, [] => ([], true, [])
  | n + 1, c :: rest =>
    if c = '\\' then
      if rest.head? = some 'c' then ([], false, [])
      else
        let e := escapeAfter style rest
        let (t, goesOn, complaints) := replaceEscapes style n e.rest
        (e.octets ++ t, goesOn, e.complaint.toList ++ complaints)
    else
      let (t, goesOn, complaints) := replaceEscapes style n rest
      (c :: t, goesOn, complaints)

/-- A text between single quotes after a dollar sign with its escapes replaced. A letter after `c`
stands for its control character. -/
def unescapeQuoted : Nat → Text → Text
  | 0, t => t
  | _, [] => []
  | n + 1, '\\' :: 'c' :: c :: rest => Char.ofNat (c.toNat % 32) :: unescapeQuoted n rest
  | n + 1, '\\' :: rest =>
    let e := escapeAfter .quoted rest
    e.octets ++ unescapeQuoted n e.rest
  | n + 1, c :: rest => c :: unescapeQuoted n rest

/-! ### Quoting -/

/-- A text between single quotes, as a command line would give it. -/
def singleQuoted (t : Text) : Text :=
  Text.singleQuote :: (t.flatMap fun c ↦
    if c = Text.singleQuote then "'\\''".toList else [c]) ++ [Text.singleQuote]

/-- Whether a text holds what only an escape can show. -/
def needsEscapes (t : Text) : Bool :=
  (wide t).any fun c ↦ c.toNat < 32 || c.toNat = 127 || (0x80 ≤ c.toNat && c.toNat < 0xA0) ||
    strayMark ≤ c.toNat

/-- The letters of control characters. -/
def controlLetters : List (Char × Char) := [
  ('\x1B', 'E'), ('\x07', 'a'), ('\x08', 'b'), ('\x0C', 'f'), ('\n', 'n'), ('\r', 'r'), ('\t', 't'),
  ('\x0B', 'v')]

/-- A text between single quotes after a dollar sign, its control characters as escapes. -/
def dollarQuoted (t : Text) : Text :=
  let octal (n : Nat) : Text :=
    '\\' :: [n / 64, n / 8 % 8, n % 8].map fun d ↦ Nat.digitChar d
  let escape (c : Char) : Text :=
    match controlLetters.lookup c with
    | some letter => ['\\', letter]
    | none =>
      if c = '\\' ∨ c = Text.singleQuote then ['\\', c]
      else if strayMark ≤ c.toNat then octal (c.toNat - strayMark)
      else if c.toNat < 32 ∨ c.toNat = 127 then octal c.toNat
      else if 0x80 ≤ c.toNat ∧ c.toNat < 0xA0 then (toOctets [c]).flatMap fun c ↦ octal c.toNat
      else toOctets [c]
  "$'".toList ++ (wide t).flatMap escape ++ [Text.singleQuote]

/-- A text between single quotes, with escapes where it needs them. -/
def reusable (t : Text) : Text := if needsEscapes t then dollarQuoted t else singleQuoted t

/-- The signs that have a meaning to the shell. -/
def shellSigns : Text := " \t\n\"\\'|&;()<>!\x7b\x7d*[]?^$\x60".toList

/-- A text with a backslash before each sign that has a meaning to the shell. -/
def backslashed (t : Text) : Text :=
  if t.isEmpty then "''".toList
  else if needsEscapes t then dollarQuoted t
  else (t.zipIdx).flatMap fun (c, i) ↦
    if shellSigns.contains c ∨ c = ',' ∨ ((c = '#' ∨ c = '~') ∧ i = 0) then ['\\', c] else [c]

/-- A text between double quotes, as a list of variables shows it. -/
def doubleQuoted (t : Text) : Text :=
  if needsEscapes t then dollarQuoted t
  else Text.doubleQuote :: (t.flatMap fun c ↦
    if c = Text.doubleQuote ∨ c = '$' ∨ c = '\\' ∨ c = '\x60' then ['\\', c] else [c]) ++
    [Text.doubleQuote]

end CommandScript.Shell
