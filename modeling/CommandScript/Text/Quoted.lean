import CommandScript.Text.Printable

/-!
# Quoted texts

A message shows a path or a name **quoted**: between quotes, on one line, with every character
visible. Single quotes are used unless the text holds a single quote and no double quote. The
quote in use and the backslash are written after a backslash, and so are the line feed, the tab
and the carriage return as letters; any other unprintable character is written by its number.
-/
namespace CommandScript.Text

/-- The single quote. -/
def singleQuote : Char := '\x27'

/-- The double quote. -/
def doubleQuote : Char := '\x22'

/-- A number in lower-case hexadecimal, with exactly the given count of digits. -/
def hexDigits : Nat → Nat → Text
  | 0, _ => []
  | count + 1, n => hexDigits count (n / 16) ++ [Nat.digitChar (n % 16)]

/-- An unprintable character by its number: two digits after `x`, four after `u`, or eight
after `U`. -/
def escapeNumber (c : Char) : Text :=
  let n := c.toNat
  if n < 0x100 then '\\' :: 'x' :: hexDigits 2 n
  else if n < 0x10000 then '\\' :: 'u' :: hexDigits 4 n
  else '\\' :: 'U' :: hexDigits 8 n

/-- One character between the given quotes. -/
def quoteChar (quote c : Char) : Text :=
  if c = quote ∨ c = '\\' then ['\\', c]
  else if c = '\n' then ['\\', 'n']
  else if c = '\r' then ['\\', 'r']
  else if c = '\t' then ['\\', 't']
  else if isPrintable c then [c]
  else escapeNumber c

/-- The quote in which a text is shown. -/
def quoteFor (t : Text) : Char :=
  if t.contains singleQuote && !t.contains doubleQuote then doubleQuote else singleQuote

/-- A text between quotes, with every character visible. -/
def quoted (t : Text) : Text :=
  let quote := quoteFor t
  quote :: t.flatMap (quoteChar quote) ++ [quote]

end CommandScript.Text
