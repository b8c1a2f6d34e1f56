import CommandScript.Text.Blank

/-!
# Integers as text

The strict form of an integer is a **numeral**: digits without a needless zero in front, perhaps
after a minus sign. A text that is no numeral is **tidied** first: one sign may stand in front, then
zeros and underscores that carry no value, then digits with single underscores between them, and at
the end a point with nothing but zeros behind it. The digits are the ten of ASCII, and a numeral has
no more than `maxDigits` of them.
-/
namespace CommandScript.Text

/-- Why a text spells no integer. -/
inductive IntegerFlaw where
  /-- The text is not formed like an integer. -/
  | malformed
  /-- The text has too many digits. -/
  | tooLong
  deriving DecidableEq, Repr

/-- The most digits that a numeral can have. -/
def maxDigits : Nat := 4300

/-- The value of a row of digits. -/
def digitsValue (digits : Text) : Nat :=
  digits.foldl (fun n c ↦ n * 10 + (c.toNat - '0'.toNat)) 0

/-- Whether a character is a digit other than zero. -/
def isLeadingDigit (c : Char) : Bool := c.isDigit && c != '0'

/-- The number of a numeral without a sign. The digits are counted before anything is said about
what follows them. -/
def unsigned (t : Text) : Except IntegerFlaw Nat :=
  let digits := t.takeWhile Char.isDigit
  if t = ['0'] then .ok 0
  else if !(t.head?.map isLeadingDigit).getD false then .error .malformed
  else if maxDigits < digits.length then .error .tooLong
  else if digits.length = t.length then .ok (digitsValue digits)
  else .error .malformed

/-- The integer of a numeral. -/
def numeral : Text → Except IntegerFlaw Int
  | '-' :: rest => (unsigned rest).map fun n ↦ -(n : Int)
  | t => (unsigned t).map fun n ↦ (n : Int)

/-- What is left of a text after a zero, or after the zeros and underscores that follow it: the text
from the first other digit or minus sign on. The last of them, given as `previous`, stays when
nothing else follows, or a point. -/
def afterZero (previous : Char) : Text → Option Text
  | [] => some [previous]
  | c :: rest =>
    if c = '0' ∨ c = '_' then afterZero c rest
    else if isLeadingDigit c ∨ c = '-' then some (c :: rest)
    else if c = '.' then some (previous :: c :: rest)
    else none

/-- A text without the zeros in front that carry no value. -/
def dropZeros : Text → Option Text
  | '0' :: rest => afterZero '0' rest
  | c :: rest => if isLeadingDigit c ∨ c = '-' then some (c :: rest) else none
  | [] => none

/-- A text without a point and zeros at its end. -/
def dropFraction (t : Text) : Text :=
  match t.dropWhile (· != '.') with
  | _ :: '0' :: zeros => if zeros.all (· == '0') then t.takeWhile (· != '.') else t
  | _ => t

/-- A text without its underscores, where each of them stands alone and none at an end. -/
def dropUnderscores (t : Text) : Text :=
  if (fields '_' t).all (!·.isEmpty) then t.filter (· != '_') else t

/-- What the text after the sign is tidied to. -/
def tidyDigits (t : Text) : Option Text :=
  (dropZeros t).map fun t ↦ dropUnderscores (dropFraction t)

/-- What a text is tidied to. -/
def tidy : Text → Option Text
  | '+' :: '-' :: _ => none
  | '+' :: rest => tidyDigits rest
  | '-' :: rest => (tidyDigits rest).map ('-' :: ·)
  | t => tidyDigits t

/-- Whether a character may surround an integer: a blank that is no separator control. -/
def isMargin (c : Char) : Bool := isBlank c && !(0x1C ≤ c.toNat && c.toNat ≤ 0x1F)

/-- A text without its margins. -/
def trimMargins (t : Text) : Text := ((t.dropWhile isMargin).reverse.dropWhile isMargin).reverse

/-- The integer that a text spells. Only a text that is malformed as it stands is tidied, and then
whatever is wrong with what it is tidied to counts as malformed. -/
def readInteger (t : Text) : Except IntegerFlaw Int :=
  match numeral (trimMargins t), tidy (trimMargins t) with
  | .error .malformed, some tidied => (numeral tidied).mapError fun _ ↦ .malformed
  | read, _ => read

/-- An integer in decimal digits. -/
def ofInt (n : Int) : Text := (toString n).toList

end CommandScript.Text
