import CommandScript.Shell.Printf

/-!
# Values of rule scripts

A value is a number or a text, and each is taken for the other where that is asked for. A text that
comes from the input counts as a number in comparisons if it is spelled like one. Numbers have 53
binary digits. A whole number is written with all of its digits, any other one by a format.
-/
namespace CommandScript.Shell.RuleScript

/-! ### Numbers -/

/-- The fraction that a finite number is, without its sign. -/
def fractionOf (x : Float) : Fraction :=
  let bits := x.toBits.toNat
  let exponent : Nat := bits / Nat.pow 2 52 % Nat.pow 2 11
  let digits := bits % Nat.pow 2 52
  if exponent = 0 then (⟨digits, 1⟩ : Fraction).scale 2 (-1074)
  else (⟨digits + Nat.pow 2 52, 1⟩ : Fraction).scale 2 ((exponent : Int) - 1075)

/-- Whether a number has a sign. -/
def isNegative (x : Float) : Bool := Nat.pow 2 63 ≤ x.toBits.toNat

/-- A number as one that can be written. -/
def realOf (x : Float) : Real :=
  if x.isNaN then .undefined true
  else if x.isInf then .infinite (isNegative x)
  else .finite (isNegative x) (fractionOf x)

/-- A number without its places, within the numbers of 64 bits, of which those with a sign go half
as far. What lies below them is one more than the least. -/
def wholePart (x : Float) : Int :=
  let n : Int := (-x).toUInt64.toNat
  if x.isNaN then -Int.pow 2 63
  else if x < 0 then if Int.pow 2 63 < n then 1 - Int.pow 2 63 else -n
  else x.toUInt64.toNat

/-- A number without its places, within the numbers of 64 bits with a sign. -/
def signedPart (x : Float) : Int := min (Int.pow 2 63 - 1) (wholePart x)

/-- The whole number that a number is, if it is one of 64 bits. -/
def wholeOf? (x : Float) : Option Int :=
  if x.isNaN || x.isInf then none
  else
    let n := wholePart x
    if Float.ofInt n == x then some n else none

/-- The digits at the start of a text, with a point and an exponent, as a number, and what follows.
-/
def decimalNumber? (t : Text) : Option (Float × Text) :=
  let whole := t.takeWhile Char.isDigit
  let (places, after) := match t.drop whole.length with
    | '.' :: rest => (rest.takeWhile Char.isDigit, rest.dropWhile Char.isDigit)
    | rest => ([], rest)
  if whole.isEmpty ∧ places.isEmpty then none
  else
    let (power, after) := readExponent 'e' after
    let power : Int := max (-maxPower) (min maxPower (power - places.length))
    let digits := Text.digitsValue (whole ++ places)
    some (Float.ofScientific digits (power < 0) power.natAbs, after)

/-- The number that the start of a text spells, and what follows it. -/
def readNumber? (t : Text) : Option (Float × Text) :=
  let (sign, digits) := splitSign (t.dropWhile isSpace)
  let signed (x : Float) : Float := if sign < 0 then -x else x
  let isPlain := digits.head?.any fun c ↦ (c.isDigit || c = '.')
  let isHex := digits.head? = some '0' && (digits[1]?).any fun c ↦ c = 'x' || c = 'X'
  if isPlain ∧ !isHex then (decimalNumber? digits).map fun (x, rest) ↦ (signed x, rest)
  else match readReal t with
    | some (.finite _ f, rest) =>
      some (signed (Float.ofNat f.numerator / Float.ofNat f.denominator), rest)
    | some (.infinite _, rest) => some (signed (1 / 0), rest)
    | some (.undefined _, rest) => some (0 / 0, rest)
    | none => none

/-- The number that a text stands for: the one that its start spells, or zero. -/
def textNumber (t : Text) : Float := ((readNumber? t).map (·.1)).getD 0

/-- The number that all of a text spells, if it starts and ends like one. -/
def spelledNumber? (t : Text) : Option Float :=
  let t := trimSpaces t
  let opens := t.head?.any fun c ↦ (c.isDigit || c = '+' || c = '-' || c = '.')
  let closes := t.getLast?.any fun c ↦ (c.isDigit || c = '.')
  if opens && closes then
    match readNumber? t with
    | some (x, []) => some x
    | _ => none
  else none

/-! ### Formats -/

/-- A count in a conversion of a format. -/
inductive FormatCount where
  /-- It is not there. -/
  | missing
  /-- A number. -/
  | fixed (n : Nat)
  /-- An argument gives it. -/
  | given
  deriving DecidableEq, Repr

/-- A **part** of a format. -/
inductive FormatPart where
  /-- A text. -/
  | plain (t : Text)
  /-- A conversion with its flags, its width and its precision. -/
  | conversion (flags : Text) (width precision : FormatCount) (letter : Char)
  /-- A conversion that is not known. -/
  | improper
  deriving DecidableEq, Repr

/-- A count at the start of a text, and what follows. -/
def formatCount : Text → FormatCount × Text
  | '*' :: rest => (.given, rest)
  | t =>
    let digits := t.takeWhile Char.isDigit
    (if digits.isEmpty then .missing else .fixed (Text.digitsValue digits), t.drop digits.length)

/-- The parts of a format. -/
def formatParts : Nat → Text → Text → List FormatPart
  | 0, plain, _ => [.plain plain.reverse]
  | _, plain, [] => [.plain plain.reverse]
  | n + 1, plain, '%' :: '%' :: rest => formatParts n ('%' :: plain) rest
  | n + 1, plain, '%' :: rest =>
    let flags := rest.takeWhile fun c ↦ "-+ #0".toList.contains c
    let (width, rest) := formatCount (rest.drop flags.length)
    let (precision, rest) := match rest with
      | '.' :: rest => match formatCount rest with
        | (.missing, rest) => (FormatCount.fixed 0, rest)
        | found => found
      | rest => (.missing, rest)
    let isWhole (c : Char) : Bool := "dioxXu".toList.contains c
    let rest := match rest with
      | 'l' :: c :: after => if isWhole c then c :: after else rest
      | 'h' :: c :: after => if isWhole c then c :: after else rest
      | rest => rest
    match rest with
    | c :: rest =>
      if "dioxXucsfeEgG".toList.contains c then
        .plain plain.reverse :: .conversion flags width precision c :: formatParts n [] rest
      else [.plain plain.reverse, .improper]
    | [] => [.plain plain.reverse, .improper]
  | n + 1, plain, c :: rest => formatParts n (c :: plain) rest

/-- A conversion with its counts known. -/
def conversionOf (flags : Text) (width : Int) (precision : Option Int) (letter : Char) :
    Conversion :=
  { left := flags.contains '-' || width < 0, zeros := flags.contains '0'
    signed := flags.contains '+', spaced := flags.contains ' ', marked := flags.contains '#'
    width := width.natAbs, precision := (precision.filter (0 ≤ ·)).map Int.toNat
    letter, moment := [] }

/-- A number written by a conversion. -/
def convertNumber (c : Conversion) (x : Float) : Text :=
  if c.letter = 'i' then c.whole (signedPart x)
  else if "doxXu".toList.contains c.letter then c.whole (wholePart x)
  else c.real (realOf x)

/-- A number written by a format. -/
def numberByFormat (format : Text) (x : Float) : Text :=
  (formatParts (format.length + 1) [] format).flatMap fun
    | .plain t => t
    | .conversion flags width precision letter =>
      let count (c : FormatCount) : Option Int := match c with
        | .fixed n => some n
        | _ => none
      convertNumber (conversionOf flags ((count width).getD 0) (count precision) letter) x
    | .improper => []

/-- The format of numbers when nothing else is said. -/
def usualFormat : Text := "%.6g".toList

/-- A number as a text, where a format is for those that are not whole. -/
def numberText (format : Text) (x : Float) : Text :=
  match wholeOf? x with
  | some n => (toString n).toList
  | none => numberByFormat format x

/-! ### Values -/

/-- A **value**. -/
inductive Value where
  /-- Nothing has been assigned. -/
  | unset
  /-- A number. -/
  | number (x : Float)
  /-- A text. -/
  | text (t : Text)
  /-- A text from the input. -/
  | input (t : Text)

namespace Value

/-- The empty text. -/
def empty : Value := .text []

/-- A whole number. -/
def ofNat (n : Nat) : Value := .number (Float.ofNat n)

/-- Whether something is so, as a number. -/
def ofBool (b : Bool) : Value := .number (if b then 1 else 0)

/-- A value as a number. -/
def toNumber : Value → Float
  | .unset => 0
  | .number x => x
  | .text t => textNumber t
  | .input t => textNumber t

/-- A value as a text, where a format is for numbers that are not whole. -/
def toText (format : Text) : Value → Text
  | .unset => []
  | .number x => numberText format x
  | .text t => t
  | .input t => t

/-- The number that a value counts as in comparisons, if it does. -/
def counted? : Value → Option Float
  | .unset => some 0
  | .number x => some x
  | .text _ => none
  | .input t => spelledNumber? t

/-- Whether a value stands for something true. -/
def holds : Value → Bool
  | .unset => false
  | .number x => x != 0
  | .text t => !t.isEmpty
  | .input t => match spelledNumber? t with
    | some x => x != 0
    | none => !t.isEmpty

/-- Whether a value has been given as a number, or is spelled like one in the input. -/
def isNumber : Value → Bool
  | .number _ => true
  | .input t => (spelledNumber? t).isSome
  | _ => false

/-- How two values compare: as numbers where both count as such, otherwise as texts. What is no
number is taken for equal to any. -/
def compare (format : Text) (a b : Value) : Ordering :=
  match a.counted?, b.counted? with
  | some x, some y => if x < y then .lt else if y < x then .gt else .eq
  | _, _ =>
    let s := a.toText format
    let t := b.toText format
    if s < t then .lt else if s = t then .eq else .gt

end Value

end CommandScript.Shell.RuleScript
