import CommandScript.Shell.Octets
import CommandScript.Text.Integer

/-!
# Numbers of the shell

The shell and its utilities read whole numbers that fit in a machine word, with an optional sign and
spaces around them.
-/
namespace CommandScript.Shell

/-- The sign at the start of a text, and what follows it. -/
def splitSign : Text → Int × Text
  | '+' :: rest => (1, rest)
  | '-' :: rest => (-1, rest)
  | t => (1, t)

/-- A text without the spaces at its two ends. -/
def trimSpaces (t : Text) : Text := ((t.dropWhile isSpace).reverse.dropWhile isSpace).reverse

/-- The whole number that a text spells. -/
def wholeNumber? (t : Text) : Option Int :=
  let (sign, digits) := splitSign (trimSpaces t)
  let n := sign * Text.digitsValue digits
  if isDigits digits && -Int.pow 2 63 ≤ n && n < Int.pow 2 63 then some n else none

/-- The natural number that a text of digits spells. -/
def naturalNumber? (t : Text) : Option Nat :=
  if isDigits t then some (Text.digitsValue t) else none

/-- The sum of numbers. -/
def sumOf (numbers : List Nat) : Nat := numbers.foldl (· + ·) 0

/-- The digits of a natural number in a base. -/
def digitsIn (base n : Nat) : Text := Nat.toDigits base n

/-- A text put at the right of a width. -/
def padStart (width : Nat) (t : Text) : Text := List.replicate (width - t.length) ' ' ++ t

end CommandScript.Shell
