import CommandScript.Shell.Calendar
import CommandScript.Shell.Decimal

/-!
# Formats

The formats of `printf`: a format is written once for as many arguments as its conversions take,
and again as long as arguments are left. What does not suit a conversion is complained about, and
writing goes on with what can be made of it.
-/
namespace CommandScript.Shell

/-- One **conversion** of a format. -/
structure Conversion where
  /-- Whether the value is put at the left. -/
  left : Bool
  /-- Whether a number is filled with zeros. -/
  zeros : Bool
  /-- Whether a number that is not negative has a sign. -/
  signed : Bool
  /-- Whether it has a blank in the place of a sign. -/
  spaced : Bool
  /-- Whether a number shows its base, or all of its places. -/
  marked : Bool
  /-- The least width. -/
  width : Nat
  /-- The precision, if there is one. -/
  precision : Option Nat
  /-- The letter of the conversion. -/
  letter : Char
  /-- The format of a moment. -/
  moment : Text
  deriving DecidableEq, Repr

namespace Conversion

/-- A text put into the width of a conversion. -/
def pad (c : Conversion) (t : Text) : Text :=
  let filler := List.replicate (c.width - t.length) ' '
  if c.left then t ++ filler else filler ++ t

/-- A number put into the width of a conversion, given what comes before its digits. -/
def padNumber (c : Conversion) (zeros : Bool) (head digits : Text) : Text :=
  if zeros ∧ !c.left then
    head ++ List.replicate (c.width - head.length - digits.length) '0' ++ digits
  else c.pad (head ++ digits)

/-- The sign of a number as a conversion shows it. -/
def sign (c : Conversion) (negative : Bool) : Text :=
  if negative then ['-'] else if c.signed then ['+'] else if c.spaced then [' '] else []

/-- A whole number as a conversion shows it. -/
def whole (c : Conversion) (n : Int) : Text :=
  let atLeast (t : Text) : Text := match c.precision with
    | some 0 => if t = ['0'] then [] else t
    | some p => List.replicate (p - t.length) '0' ++ t
    | none => t
  let zeros := c.zeros && c.precision.isNone
  let unsigned := (Int.emod n (Int.pow 2 64)).toNat
  match c.letter with
  | 'd' | 'i' => c.padNumber zeros (c.sign (n < 0)) (atLeast (shown n.natAbs))
  | 'u' => c.padNumber zeros [] (atLeast (shown unsigned))
  | 'o' =>
    let t := atLeast (Nat.toDigits 8 unsigned)
    c.padNumber zeros [] (if c.marked ∧ t.head? ≠ some '0' then '0' :: t else t)
  | letter =>
    let capital := letter = 'X'
    let t := atLeast (Nat.toDigits 16 unsigned)
    let head : Text := if c.marked ∧ unsigned ≠ 0 then "0x".toList else []
    let turn (t : Text) : Text := if capital then t.map Char.toUpper else t
    c.padNumber zeros (turn head) (turn t)

/-- A number that need not be whole as a conversion shows it. -/
def real (c : Conversion) (r : Real) : Text :=
  let small := c.letter.toLower
  let turn (t : Text) : Text := if c.letter.isUpper then t.map Char.toUpper else t
  match r with
  | .infinite negative => c.pad (c.sign negative ++ turn "inf".toList)
  | .undefined negative => c.pad (c.sign negative ++ turn "nan".toList)
  | .finite negative f =>
    let f := f.toBinary
    let places := c.precision.getD 6
    let point (t : Text) : Text := if c.marked ∧ !t.contains '.' then
        t.takeWhile (· != 'e') ++ '.' :: t.dropWhile (· != 'e') else t
    let digits := match small with
      | 'f' => point (f.fixed places)
      | 'e' => point (f.scientific places)
      | 'a' => f.hexadecimal c.precision
      | _ => if c.marked then point (f.general true places) else f.general false places
    if small = 'a' then c.padNumber c.zeros (c.sign negative ++ turn (digits.take 2))
      (turn (digits.drop 2))
    else c.padNumber c.zeros (c.sign negative) (turn digits)

end Conversion

/-- What is wrong with an argument of a conversion, said about it. -/
inductive Unfit where
  /-- The argument is no number. -/
  | notNumber
  /-- The argument is no number in its base. -/
  | notInBase (base : String)
  /-- Only the start of the argument is a number. -/
  | partly
  /-- The number is too great. -/
  | tooGreat
  deriving DecidableEq, Repr

/-- The words about an argument that does not suit its conversion. -/
def Unfit.words (standard : Bool) (argument : Text) : Unfit → Text
  | .notNumber =>
    argument ++ (if standard then ": expected numeric value" else ": invalid number").toList
  | .notInBase base =>
    if standard then argument ++ ": not completely converted".toList
    else argument ++ ": invalid ".toList ++ base.toList ++ " number".toList
  | .partly =>
    argument ++ (if standard then ": not completely converted" else ": invalid number").toList
  | .tooGreat =>
    if standard then argument ++ ": Numerical result out of range".toList
    else "warning: ".toList ++ argument ++ ": Numerical result out of range".toList

/-- The number of the character that an argument has after a quote, if it has one. -/
def quotedNumber? (argument : Text) : Option Nat :=
  match argument with
  | [] => none
  | c :: rest =>
    if c = Text.singleQuote ∨ c = Text.doubleQuote then
      some (((wide rest).head?.map Char.toNat).getD 0)
    else none

/-- The whole number that an argument spells, with what is wrong with it. -/
def wholeArgument (argument : Text) : Int × Option Unfit :=
  match quotedNumber? argument with
  | some n => (n, none)
  | none =>
    let t := argument.dropWhile isSpace
    if t.isEmpty then (0, if argument.isEmpty then none else some .notNumber)
    else
      let (sign, digits) := splitSign t
      let inBase (base : Nat) (name : Option String) (t : Text) : Int × Option Unfit :=
        let (n, taken, after) := takeNumber base t.length 0 0 t
        let n := sign * n
        let unfit := if taken = 0 ∧ name.isNone then some Unfit.notNumber
          else if !after.isEmpty ∨ taken = 0 then some (match name with
            | some name => .notInBase name
            | none => .partly)
          else if n < -Int.pow 2 63 ∨ Int.pow 2 63 ≤ n then some .tooGreat
          else none
        (max (-Int.pow 2 63) (min (Int.pow 2 63 - 1) n), unfit)
      match digits with
      | '0' :: x :: rest =>
        if x = 'x' ∨ x = 'X' then inBase 16 (some "hex") rest
        else if x = 'b' then inBase 2 none rest
        else if x.isDigit then inBase 8 (some "octal") (x :: rest)
        else inBase 10 none digits
      | digits => inBase 10 none digits

/-- The number that an argument spells, with what is wrong with it. -/
def realArgument (argument : Text) : Real × Option Unfit :=
  match quotedNumber? argument with
  | some n => (.finite false ⟨n, 1⟩, none)
  | none =>
    match readReal argument with
    | some (r, rest) => (r, if rest.isEmpty then none else some .partly)
    | none => (.finite false ⟨0, 1⟩, if argument.isEmpty then none else some .notNumber)

/-- What writing comes to. -/
structure Formatted where
  /-- What is written. -/
  text : Text
  /-- What is said about the arguments. -/
  complaints : List Text
  /-- The status that it gives. -/
  status : Nat
  deriving DecidableEq, Repr

namespace Formatted

/-- Nothing written. -/
def none : Formatted := ⟨[], [], 0⟩

/-- One thing written and then another. -/
def append (a b : Formatted) : Formatted :=
  ⟨a.text ++ b.text, a.complaints ++ b.complaints, max a.status b.status⟩

/-- A text that is written. -/
def ofText (t : Text) : Formatted := ⟨t, [], 0⟩

end Formatted

/-- A text with the escapes of an argument replaced, whether output goes on after it, and what is
said about it. -/
def argumentEscapes (standard : Bool) (t : Text) : Text × Bool × List Text :=
  let style := if standard then EscapeStyle.standard else EscapeStyle.argument
  let (t, goesOn, complaints) := replaceEscapes style (t.length + 1) t
  (t, goesOn, complaints.map String.toList)

/-- What a conversion writes for an argument, and whether output goes on after it. -/
def Conversion.write (standard : Bool) (c : Conversion) (argument : Option Text) :
    Formatted × Bool :=
  let t := argument.getD []
  let told (unfit : Option Unfit) (text : Text) : Formatted × Bool :=
    (⟨text, (unfit.map fun u ↦ u.words standard t).toList, unfit.elim 0 fun _ ↦ 1⟩, true)
  let cut (t : Text) : Text := match c.precision with
    | some p => t.take p
    | none => t
  match c.letter with
  | 's' => (.ofText (c.pad (cut t)), true)
  | 'b' =>
    let (t, goesOn, complaints) := argumentEscapes standard t
    (⟨c.pad (cut t), complaints, 0⟩, goesOn)
  | 'q' => (.ofText (c.pad (cut (backslashed t))), true)
  | 'Q' => (.ofText (c.pad (backslashed (cut t))), true)
  | 'c' => (.ofText (c.pad (if t.isEmpty then ['\x00'] else t.take 1)), true)
  | 'T' =>
    let (n, unfit) := match argument with
      | some t => wholeArgument t
      | none => (-1, none)
    let moment := if n = -1 ∨ n = -2 then presentMoment else n
    let format := if c.moment.isEmpty then "%X".toList else c.moment
    told unfit (c.pad (cut (formatMoment moment none (format.length + 1) format)))
  | letter =>
    if "diuoxX".toList.contains letter then
      let (n, unfit) := wholeArgument t
      told unfit (c.whole n)
    else
      let (r, unfit) := realArgument t
      told unfit (c.real r)

/-- The letters of the conversions, apart from that of a moment. -/
def conversionLetters (standard : Bool) : Text :=
  if standard then "sbcdiuoxXeEfFgGaA".toList else "sbqQcdiuoxXeEfFgGaA".toList

/-- What a format takes from its arguments: the conversions that are left to write, with the
arguments that have been taken for widths. -/
structure Pass where
  /-- What it writes. -/
  written : Formatted
  /-- The arguments that are left. -/
  rest : List Text
  /-- Whether an argument has been asked for. -/
  converts : Bool
  /-- Whether writing goes on. -/
  goesOn : Bool

/-- A pass after something that has been written before it. -/
def Pass.after (p : Pass) (before : Formatted) : Pass :=
  { p with written := before.append p.written }

/-- A pass that stops with a complaint. -/
def Pass.stopped (standard : Bool) (complaint : Text) : Pass :=
  ⟨⟨[], [complaint], if standard then 2 else 1⟩, [], false, false⟩

/-- A width or a precision at the start of a text, which an argument may give: its value, what is
left of the text and of the arguments, and what is said about the argument. -/
def readCount (standard : Bool) (t : Text) (arguments : List Text) :
    Option Int × Text × List Text × Formatted :=
  match t with
  | '*' :: rest =>
    let argument := arguments.headD []
    let (n, unfit) := wholeArgument argument
    (some n, rest, arguments.drop 1,
      ⟨[], (unfit.map fun u ↦ u.words standard argument).toList, unfit.elim 0 fun _ ↦ 1⟩)
  | t =>
    let digits := t.takeWhile Char.isDigit
    (if digits.isEmpty then none else some (Text.digitsValue digits : Nat), t.drop digits.length,
      arguments, .none)

/-- The format of a moment between parentheses, and what follows it. -/
def momentFormat? (t : Text) : Option (Text × Text) :=
  match t with
  | '(' :: rest =>
    match rest.dropWhile (· != ')') with
    | _ :: after => some (rest.takeWhile (· != ')'), after)
    | [] => none
  | _ => none

/-- The letters that say how large a number is, which change nothing. -/
def sizeLetters : Text := "hlLjzt".toList

/-- One pass over a format. -/
def formatOnce (standard : Bool) : Nat → Text → List Text → Pass
  | 0, _, arguments => ⟨.none, arguments, false, true⟩
  | _, [], arguments => ⟨.none, arguments, false, true⟩
  | n + 1, c :: format, arguments =>
    if c = '\\' then
      let style := if standard then { EscapeStyle.standard with zeroFirst := false }
        else EscapeStyle.quoted
      let e := escapeAfter style format
      (formatOnce standard n e.rest arguments).after
        ⟨e.octets, (e.complaint.map String.toList).toList, 0⟩
    else if c = '%' ∧ format.head? = some '%' then
      (formatOnce standard n (format.drop 1) arguments).after (.ofText ['%'])
    else if c = '%' then
      let flags := format.takeWhile fun c ↦ "-0+ #'".toList.contains c
      let (width, t, arguments, told) :=
        readCount standard (format.drop flags.length) arguments
      let (precision, t, arguments, told') := match t with
        | '.' :: rest =>
          let (p, t, arguments, told) := readCount standard rest arguments
          (some (p.getD 0), t, arguments, told)
        | t => (none, t, arguments, .none)
      let head := told.append told'
      let (moment, t) := match if standard then none else momentFormat? t with
        | some (moment, after) => (some moment, after)
        | none => (none, if standard then t else t.dropWhile (sizeLetters.contains ·))
      let spec := format.take (format.length - t.length)
      match t with
      | [] =>
        let complaint := if standard then "missing format character".toList
          else citedText ('%' :: spec) ++ ": missing format character".toList
        (Pass.stopped standard complaint).after head
      | letter :: after =>
        let isKnown := if moment.isSome then letter = 'T'
          else (conversionLetters standard).contains letter
        if !isKnown then
          let complaint := if standard then
              '%' :: spec ++ letter :: ": invalid directive".toList
            else citedText [letter] ++ ": invalid format character".toList
          (Pass.stopped standard complaint).after head
        else
          let w := width.getD 0
          let conversion : Conversion :=
            { left := flags.contains '-' || decide (w < 0), zeros := flags.contains '0'
              signed := flags.contains '+', spaced := flags.contains ' '
              marked := flags.contains '#', width := w.natAbs
              precision := (precision.filter (0 ≤ ·)).map Int.toNat, letter
              moment := moment.getD [] }
          let (written, goesOn) := conversion.write standard arguments.head?
          let written := head.append written
          if goesOn then
            let pass := (formatOnce standard n after (arguments.drop 1)).after written
            { pass with converts := true }
          else ⟨written, [], true, false⟩
    else (formatOnce standard n format arguments).after (.ofText [c])

/-- What a format writes for its arguments. -/
def formatAll (standard : Bool) (format : Text) (arguments : List Text) : Formatted :=
  let pass := formatOnce standard (format.length + 1) format arguments
  if h : pass.goesOn ∧ pass.converts ∧ pass.rest ≠ [] ∧ pass.rest.length < arguments.length then
    have : pass.rest.length < arguments.length := h.2.2.2
    pass.written.append (formatAll standard format pass.rest)
  else pass.written
termination_by arguments.length

end CommandScript.Shell
