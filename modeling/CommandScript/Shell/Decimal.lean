import CommandScript.Shell.Escape
import CommandScript.Shell.Number

/-!
# Fractions in decimal notation

A fraction is read from decimal digits with a point and an exponent, brought to the nearest number
with 64 binary digits, and written with a given number of places. Ties go to the even neighbour.
-/
namespace CommandScript.Shell

/-- A **fraction** that is not negative, as a quotient. -/
structure Fraction where
  /-- What is divided. -/
  numerator : Nat
  /-- By what it is divided. -/
  denominator : Nat
  deriving DecidableEq, Repr

namespace Fraction

/-- A quotient rounded to a whole number, a tie to the even one. -/
def roundDiv (m n : Nat) : Nat :=
  let q := m / n
  let r := m % n
  if n < 2 * r ∨ (2 * r = n ∧ q % 2 = 1) then q + 1 else q

/-- A fraction times a power of a base. -/
def scale (f : Fraction) (base : Nat) (power : Int) : Fraction :=
  if 0 ≤ power then ⟨f.numerator * Nat.pow base power.toNat, f.denominator⟩
  else ⟨f.numerator, f.denominator * Nat.pow base (-power).toNat⟩

/-- The nearest whole number. -/
def round (f : Fraction) : Nat := roundDiv f.numerator f.denominator

/-- The nearest fraction of 64 binary digits. -/
def toBinary (f : Fraction) : Fraction :=
  if f.numerator = 0 then f
  else
    let guess : Int := Nat.log2 f.numerator - Nat.log2 f.denominator - 63
    let power := if (f.scale 2 (-guess)).round < Nat.pow 2 63 then guess - 1
      else if Nat.pow 2 64 ≤ (f.scale 2 (-guess)).round then guess + 1 else guess
    (⟨(f.scale 2 (-power)).round, 1⟩ : Fraction).scale 2 power

/-- The digits of a whole number up to a point that stands before the last ones. -/
def withPoint (places n : Nat) : Text :=
  let digits := (toString n).toList
  let digits := List.replicate (places + 1 - digits.length) '0' ++ digits
  let whole := digits.take (digits.length - places)
  if places = 0 then whole else whole ++ '.' :: digits.drop (digits.length - places)

/-- A fraction with a number of places after the point. -/
def fixed (places : Nat) (f : Fraction) : Text := withPoint places (f.scale 10 places).round

/-- The power of ten of the first digit of a fraction that is written with a number of places after
that digit. -/
def exponent (places : Nat) (f : Fraction) : Int :=
  if f.numerator = 0 then 0
  else
    let digits (n : Nat) : Int := (toString n).toList.length
    let guess : Int := digits f.numerator - digits f.denominator
    let power := if (f.scale 10 (-guess)).numerator < (f.scale 10 (-guess)).denominator
      then guess - 1 else guess
    if Nat.pow 10 (places + 1) ≤ (f.scale 10 (places - power)).round then power + 1 else power

/-- A fraction with one digit before the point, a number of places after it, and an exponent. -/
def scientific (places : Nat) (f : Fraction) : Text :=
  let power := f.exponent places
  let digits := (toString power.natAbs).toList
  withPoint places (f.scale 10 (places - power)).round ++
    'e' :: (if power < 0 then '-' else '+') :: List.replicate (2 - digits.length) '0' ++ digits

/-- A text without the zeros at the end of its places. -/
def dropZeros (t : Text) : Text :=
  let mantissa := t.takeWhile (· != 'e')
  let short := if mantissa.contains '.' then
      (((mantissa.reverse.dropWhile (· == '0')).dropWhile (· == '.'))).reverse
    else mantissa
  short ++ t.drop mantissa.length

/-- A fraction with a number of digits, in the shorter of the two forms. Zeros at its end may be
kept. -/
def general (keeps : Bool) (digits : Nat) (f : Fraction) : Text :=
  let digits := max digits 1
  let power := f.exponent (digits - 1)
  let t := if -4 ≤ power ∧ power < digits then f.fixed (digits - 1 - power).toNat
    else f.scientific (digits - 1)
  if keeps then t else dropZeros t

/-- A fraction with hexadecimal digits and a power of two, its first digit having four bits. -/
def hexadecimal (places : Option Nat) (f : Fraction) : Text :=
  if f.numerator = 0 then
    "0x0".toList ++ (match places with
      | some (n + 1) => '.' :: List.replicate (n + 1) '0'
      | _ => []) ++ "p+0".toList
  else
    let guess : Int := Nat.log2 f.numerator - Nat.log2 f.denominator
    let power := if (f.scale 2 (-guess)).numerator < (f.scale 2 (-guess)).denominator
      then guess - 1 else guess
    let whole := (f.scale 2 (3 - power)).scale 16 (places.getD 15)
    let digits := Nat.toDigits 16 whole.round
    let (first, rest) := (digits.take (digits.length - places.getD 15),
      digits.drop (digits.length - places.getD 15))
    let rest := if places.isNone then (rest.reverse.dropWhile (· == '0')).reverse else rest
    let power := power - 3
    "0x".toList ++ first ++ (if rest.isEmpty then [] else '.' :: rest) ++ 'p' ::
      (if power < 0 then '-' else '+') :: (toString power.natAbs).toList

end Fraction

/-- A number that need not be whole, and may be no number at all. -/
inductive Real where
  /-- A fraction with its sign. -/
  | finite (negative : Bool) (f : Fraction)
  /-- A number beyond all others. -/
  | infinite (negative : Bool)
  /-- No number. -/
  | undefined (negative : Bool)
  deriving DecidableEq, Repr

/-- The exponent that a text opens with after a letter, and what follows it. -/
def readExponent (letter : Char) (t : Text) : Int × Text :=
  match t with
  | c :: rest =>
    if c.toLower = letter then
      let (sign, digits) := splitSign rest
      let shown := digits.takeWhile Char.isDigit
      if shown.isEmpty then (0, t)
      else (sign * Text.digitsValue shown, digits.drop shown.length)
    else (0, t)
  | [] => (0, t)

/-- The greatest power of ten that is looked at. -/
def maxPower : Int := 5000

/-- The fraction that the start of a text spells after its sign, and what follows it. -/
def readFraction (t : Text) : Option (Fraction × Text) :=
  let whole := t.takeWhile Char.isDigit
  let (places, after) := match t.drop whole.length with
    | '.' :: rest => (rest.takeWhile Char.isDigit, rest.dropWhile Char.isDigit)
    | rest => ([], rest)
  let (power, after) := readExponent 'e' after
  if whole.isEmpty ∧ places.isEmpty then none
  else some ((⟨Text.digitsValue (whole ++ places), 1⟩ : Fraction).scale 10
    (max (-maxPower) (min maxPower (power - places.length))), after)

/-- The fraction that the start of a text spells in hexadecimal digits, and what follows it. -/
def readHexFraction (t : Text) : Option (Fraction × Text) :=
  let isHex (c : Char) : Bool := (hexValue? c).isSome
  let whole := t.takeWhile isHex
  let (places, after) := match t.drop whole.length with
    | '.' :: rest => (rest.takeWhile isHex, rest.dropWhile isHex)
    | rest => ([], rest)
  let (power, after) := readExponent 'p' after
  let (n, _, _) := takeNumber 16 (whole ++ places).length 0 0 (whole ++ places)
  if whole.isEmpty ∧ places.isEmpty then none
  else some ((⟨n, 1⟩ : Fraction).scale 2
    (max (-maxPower) (min maxPower (power - 4 * places.length))), after)

/-- The number that the start of a text spells, and what follows it. -/
def readReal (t : Text) : Option (Real × Text) :=
  let (sign, digits) := splitSign (t.dropWhile isSpace)
  let negative := decide (sign < 0)
  let finite (found : Option (Fraction × Text)) : Option (Real × Text) :=
    found.map fun (f, rest) ↦ (.finite negative f, rest)
  let named (name : String) : Option Text :=
    if (digits.take name.length).map Char.toLower = name.toList then some (digits.drop name.length)
    else none
  match named "infinity", named "inf", named "nan" with
  | some rest, _, _ => some (.infinite negative, rest)
  | _, some rest, _ => some (.infinite negative, rest)
  | _, _, some rest => some (.undefined negative, rest)
  | _, _, _ =>
    match digits with
    | '0' :: x :: rest =>
      if x = 'x' ∨ x = 'X' then
        match readHexFraction rest with
        | some (f, after) => some (.finite negative f, after)
        | none => some (.finite negative ⟨0, 1⟩, x :: rest)
      else finite (readFraction digits)
    | digits => finite (readFraction digits)

end CommandScript.Shell
