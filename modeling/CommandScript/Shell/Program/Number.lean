import CommandScript.Shell.Expression
import CommandScript.Shell.Printf
import CommandScript.Shell.Program.Basic

/-!
# Programs on numbers

Rows of numbers, the prime factors of a number, numbers written with letters for how large they are,
and expressions of numbers and texts that are given word by word.
-/
namespace CommandScript.Shell

/-! ### Rows of numbers -/

/-- A number with digits after the point, as a whole number and the count of those digits. -/
structure PointNumber where
  /-- The whole number. -/
  units : Int
  /-- The count of the digits after the point. -/
  places : Nat
  deriving DecidableEq, Repr

namespace PointNumber

/-- The number that a text spells. -/
def ofText? (t : Text) : Option PointNumber :=
  let t := t.dropWhile isSpace
  let (sign, digits) := splitSign t
  let whole := digits.takeWhile Char.isDigit
  let (fraction, after) := match digits.drop whole.length with
    | '.' :: rest => (rest.takeWhile Char.isDigit, rest.dropWhile Char.isDigit)
    | rest => ([], rest)
  let (power, after) := readExponent 'e' after
  if (whole.isEmpty ∧ fraction.isEmpty) ∨ !after.isEmpty then
    match readReal t with
    | some (.finite negative f, []) =>
      if f.numerator % f.denominator = 0 then
        let n : Int := (f.numerator / f.denominator : Nat)
        some ⟨if negative then -n else n, 0⟩
      else none
    | _ => none
  else
    let n := sign * Text.digitsValue (whole ++ fraction)
    let places : Int := fraction.length - power
    some (if 0 ≤ places then ⟨n, places.toNat⟩ else ⟨n * Nat.pow 10 (-places).toNat, 0⟩)

/-- The units of a number with more digits after the point. -/
def unitsAt (p : PointNumber) (places : Nat) : Int := p.units * Nat.pow 10 (places - p.places)

/-- A whole number of units as a number with digits after the point. -/
def write (places : Nat) (n : Int) : Text :=
  (if n < 0 then ['-'] else []) ++ Fraction.withPoint places n.natAbs

end PointNumber

/-- The numbers from one to another, as units. -/
def countUp (first step : Int) (count : Nat) : List Int :=
  (List.range count).map fun (i : Nat) ↦ first + step * i

/-- How many numbers there are from one to another by steps. -/
def countOf (first step last : Int) : Nat :=
  if step = 0 then 0 else ((last - first).fdiv step + 1).toNat

/-- Arguments in which the options end at the first one that is a negative number. -/
def withNumbersApart (form : OptionForm) : List Text → List Text
  | ('-' :: c :: t) :: rest =>
    if c.isDigit ∨ c = '.' then ['-', '-'] :: ('-' :: c :: t) :: rest
    else if t.isEmpty ∧ form.takesValue c then
      match rest with
      | value :: rest => ['-', c] :: value :: withNumbersApart form rest
      | [] => [['-', c]]
    else ('-' :: c :: t) :: withNumbersApart form rest
  | arguments => arguments

/-- A format for numbers with one conversion, which a text spells: what is before it, the conversion
and what is after it. -/
def readNumberFormat (t : Text) : Except Text (Text × Conversion × Text) :=
  let rec parts (t : Text) : Text × Text := match t with
    | '%' :: '%' :: rest => let (head, after) := parts rest; ('%' :: head, after)
    | '%' :: rest => ([], '%' :: rest)
    | c :: rest => let (head, after) := parts rest; (c :: head, after)
    | [] => ([], [])
  let (before, rest) := parts t
  match rest with
  | [] => .error ("format ".toList ++ quotedName t ++ " has no % directive".toList)
  | _ :: rest =>
    let flags := rest.takeWhile fun c ↦ "-+ #0'".toList.contains c
    let rest := rest.drop flags.length
    let width := rest.takeWhile Char.isDigit
    let (precision, rest) := match rest.drop width.length with
      | '.' :: after => (some (Text.digitsValue (after.takeWhile Char.isDigit)),
          after.dropWhile Char.isDigit)
      | after => (none, after)
    match rest with
    | [] => .error ("format ".toList ++ quotedName t ++ " ends in %".toList)
    | letter :: after =>
      if !"efgaEFGA".toList.contains letter then
        .error ("format ".toList ++ quotedName t ++ " has unknown %".toList ++ letter ::
          " directive".toList)
      else
        let (tail, more) := parts after
        if !more.isEmpty then
          .error ("format ".toList ++ quotedName t ++ " has too many % directives".toList)
        else .ok (before, { left := flags.contains '-', zeros := flags.contains '0'
                            signed := flags.contains '+', spaced := flags.contains ' '
                            marked := flags.contains '#', width := Text.digitsValue width
                            precision, letter, moment := [] }, tail)

/-- The program `seq`. -/
def writeRow : Utility :=
  let form : OptionForm := {
    name := "seq", plain := "w", valued := "fs", inFront := true
    long := [("format", 'f'), ("separator", 's'), ("equal-width", 'w')] }
  fun arguments ↦ form.choose (withNumbersApart form arguments) fun c ↦ do
    let write (first step last : PointNumber) : Act Nat := do
      let places := max first.places step.places
      let scale := max places last.places
      let (a, d, b) := (first.unitsAt scale, step.unitsAt scale, last.unitsAt scale)
      if d = 0 then
        form.misuse ("invalid Zero increment value: ".toList ++
          curled ((c.others[1]?).getD ['0']))
      else
        let numbers := countUp a d (countOf a d b)
        let dropped := Nat.pow 10 (scale - places)
        let format : Except Text (Int → Text) := match c.value? 'f' with
          | none => .ok fun n ↦ PointNumber.write places (n.tdiv dropped)
          | some t => (readNumberFormat t).map fun (before, conversion, after) ↦ fun n ↦
              before ++ conversion.real (.finite (n < 0) ⟨n.natAbs, Nat.pow 10 scale⟩) ++ after
        match format with
        | .error message => failOf "seq" 1 message
        | .ok format =>
          if c.has 'f' ∧ c.has 'w' then
            form.misuse
              "format string may not be specified when printing equal width strings".toList
          else
            let texts := numbers.map format
            let width := ((texts ++ if c.has 'w' then [format a, format b] else []).map
              List.length).foldl max 0
            let filled (t : Text) : Text :=
              if !c.has 'w' then t
              else if t.head? = some '-' then
                '-' :: List.replicate (width - t.length) '0' ++ t.drop 1
              else List.replicate (width - t.length) '0' ++ t
            put (if texts.isEmpty then []
              else ((c.value? 's').getD ['\n']).intercalate (texts.map filled) ++ ['\n'])
            return 0
    match c.others with
    | [] => form.misuse "missing operand".toList
    | _ :: _ :: _ :: extra :: _ => form.misuse ("extra operand ".toList ++ curled extra)
    | operands =>
      match operands.find? fun t ↦ (PointNumber.ofText? t).isNone with
      | some t =>
        if t.map Char.toLower = "nan".toList then
          form.misuse ("invalid ".toList ++ curled "not-a-number".toList ++ " argument: ".toList ++
            curled t)
        else form.misuse ("invalid floating point argument: ".toList ++ curled t)
      | none =>
        match operands.filterMap PointNumber.ofText? with
        | [last] => write ⟨1, 0⟩ ⟨1, 0⟩ last
        | [first, last] => write first ⟨1, 0⟩ last
        | [first, step, last] => write first step last
        | _ => return 0

/-! ### Prime factors -/

/-- The prime factors of a number from a divisor on. -/
def factorsFrom : Nat → Nat → Nat → List Nat
  | 0, _, n => if n ≤ 1 then [] else [n]
  | fuel + 1, d, n =>
    if n ≤ 1 then []
    else if n < d * d then [n]
    else if n % d = 0 then d :: factorsFrom fuel d (n / d)
    else factorsFrom fuel (if d = 2 then 3 else d + 2) n

/-- The prime factors of a number in order. No divisor beyond the square root needs to be tried. -/
def primeFactors (n : Nat) : List Nat :=
  factorsFrom (Nat.pow 2 (Nat.log2 n / 2 + 1) + Nat.log2 n + 2) 2 n

/-- The program `factor`. -/
def writeFactors : Utility :=
  let form : OptionForm := { name := "factor", plain := "h", long := [("exponents", 'h')] }
  fun arguments ↦ form.choose arguments fun c ↦ do
    let words ← if c.others.isEmpty then do
        match ← readAll 0 with
        | .ok t => pure (wordsOf t)
        | .error _ => pure []
      else pure c.others
    let mut status := 0
    for word in words do
      let t := trimSpaces word
      let digits := if t.head? = some '+' then t.drop 1 else t
      match naturalNumber? digits with
      | some n =>
        let factors := primeFactors n
        let parts : List Text := if c.has 'h' then
            factors.eraseDups.map fun p ↦
              shown p ++ (if 1 < factors.count p then '^' :: shown (factors.count p) else [])
          else factors.map shown
        putLine (shown n ++ ':' :: parts.flatMap (' ' :: ·))
      | none =>
        tellOf "factor" (curled word ++ " is not a valid positive integer".toList)
        status := 1
    return status

/-! ### Sizes -/

/-- The letters that stand for how large numbers are. -/
def sizeLetterNames : Text := "KMGTPEZYRQ".toList

/-- How the scale of a number is read or written. -/
inductive SizeScale where
  /-- Without letters. -/
  | plain
  /-- By thousands. -/
  | thousands
  /-- By powers of two. -/
  | binary
  /-- By powers of two, with a letter that says so. -/
  | marked
  /-- By thousands, or by powers of two where a letter says so. -/
  | either
  deriving DecidableEq, Repr

/-- The scale of a name. -/
def SizeScale.ofName? (t : Text) : Option SizeScale :=
  ([("none", .plain), ("si", .thousands), ("iec", .binary), ("iec-i", .marked),
    ("auto", .either)] : List (String × SizeScale)).lookup (String.ofList t)

/-- A whole number of a quotient, rounded in a way. -/
def roundedQuotient (method : String) (n d : Nat) (negative : Bool) : Nat :=
  let up := (n + d - 1) / d
  match method with
  | "up" => if negative then n / d else up
  | "down" => if negative then up else n / d
  | "towards-zero" => n / d
  | "nearest" => (2 * n + d) / (2 * d)
  | _ => up

/-- A fraction with a letter for how large it is. -/
def writeSize (scale : SizeScale) (method : String) (places : Nat) (negative : Bool)
    (f : Fraction) : Text :=
  let sign : Text := if negative ∧ f.numerator != 0 then ['-'] else []
  if scale = .plain ∨ scale = .either then
    let n := roundedQuotient method (f.numerator * Nat.pow 10 places) f.denominator negative
    sign ++ Fraction.withPoint places n
  else
    let base := if scale = .thousands then 1000 else 1024
    let power := ((List.range sizeLetterNames.length).reverse.find? fun i ↦
      Nat.pow base (i + 1) * f.denominator ≤ f.numerator).map (· + 1) |>.getD 0
    let write (power : Nat) : Text × Bool :=
      let d := f.denominator * Nat.pow base power
      let tenth := roundedQuotient method (f.numerator * 10) d negative
      let whole := roundedQuotient method f.numerator d negative
      if power = 0 then (shown whole, whole < base)
      else if tenth < 100 then (Fraction.withPoint 1 tenth, true) else (shown whole, whole < base)
    let (t, fits) := write power
    let (t, power) := if fits then (t, power) else ((write (power + 1)).1, power + 1)
    let letter : Text := if power = 0 then []
      else [(sizeLetterNames.getD (power - 1) '?')] ++ if scale = .marked then ['i'] else []
    sign ++ t ++ (if scale = .thousands ∧ letter = ['K'] then ['k'] else letter)

/-- The fraction that a text spells with a letter for how large it is, and how many digits stand
after its point. -/
def readSize (scale : SizeScale) (t : Text) : Except Text (Bool × Fraction × Nat) :=
  let (negative, digits) := match t with
    | '-' :: rest => (true, rest)
    | t => (false, t)
  let invalid : Except Text (Bool × Fraction × Nat) :=
    .error ("invalid number: ".toList ++ quotedName t)
  match if (digits.head?.map Char.isDigit).getD false then readFraction (digits.map fun c ↦
      if c = 'e' ∨ c = 'E' then 'X' else c) else none with
  | none => invalid
  | some (f, after) =>
    let after := (digits.drop (digits.length - after.length)).dropWhile (· = ' ')
    let numeral := digits.takeWhile fun c ↦ c.isDigit || c = '.'
    let places := ((numeral.dropWhile (· != '.')).drop 1).length
    match after with
    | [] => .ok (negative, f, places)
    | letter :: rest =>
      match sizeLetterNames.idxOf? (if letter = 'k' then 'K' else letter) with
      | none => .error ("invalid suffix in input: ".toList ++ quotedName t)
      | some i =>
        if scale = .plain then
          .error ("rejecting suffix in input: ".toList ++ quotedName t ++
            " (consider using --from)".toList)
        else
          let isBinary := scale = .binary || scale = .marked || (scale = .either && rest = ['i'])
          let isMarked := (scale = .marked || scale = .either) && rest.head? = some 'i'
          let rest := if isMarked then rest.drop 1 else rest
          if !rest.isEmpty then .error ("invalid suffix in input ".toList ++ quotedName t ++
            ": ".toList ++ quotedName rest)
          else .ok (negative, ⟨f.numerator * Nat.pow (if isBinary then 1024 else 1000) (i + 1),
            f.denominator⟩, 0)

/-- The options of `numfmt`. -/
def sizeForm : OptionForm := {
  name := "numfmt", plain := "zD", valued := "dftrspuomi", optional := "h"
  long := [("to", 't'), ("from", 'r'), ("suffix", 's'), ("padding", 'p'), ("field", 'i'),
    ("delimiter", 'd'), ("format", 'f'), ("round", 'o'), ("header", 'h'), ("invalid", 'm'),
    ("zero-terminated", 'z'), ("debug", 'D'), ("to-unit", 'u')] }

/-- A number written as options ask for, from the text that spells it. -/
def convertSize (c : Choices) (t : Text) : Except Text Text :=
  let scale (letter : Char) : SizeScale :=
    ((c.value? letter).bind SizeScale.ofName?).getD .plain
  let suffix := (c.value? 's').getD []
  let bare := if !suffix.isEmpty ∧ suffix.isSuffixOf t then t.take (t.length - suffix.length) else t
  match readSize (scale 'r') bare with
  | .error message => .error message
  | .ok (negative, f, places) =>
    let method := String.ofList ((c.value? 'o').getD "from-zero".toList)
    let written := writeSize (scale 't') method places negative f ++ suffix
    match (c.value? 'p').bind wholeNumber? with
    | some n => .ok (if n < 0 then Text.padEnd n.natAbs written else padStart n.toNat written)
    | none => .ok written

/-- The fields of a line with the blanks before each. -/
def blankFields : Nat → Text → List (Text × Text)
  | 0, _ => []
  | _, [] => []
  | n + 1, t =>
    let blanks := t.takeWhile isShellBlank
    let rest := t.drop blanks.length
    let field := rest.takeWhile (!isShellBlank ·)
    (blanks, field) :: blankFields n (rest.drop field.length)

/-- A line with the numbers in some fields converted. -/
def convertLine (c : Choices) (line : Text) : Except Text Text :=
  let wanted (i : Nat) : Bool := match c.value? 'i' with
    | none => i = 1
    | some t => t = ['-'] || (Text.fields ',' t).any fun part ↦
        match (Text.fields '-' part).map naturalNumber? with
        | [some n] => n = i
        | [some a, some b] => a ≤ i && i ≤ b
        | [some a, none] => a ≤ i
        | [none, some b] => i ≤ b
        | _ => false
  match (c.value? 'd').bind List.head? with
  | some d =>
    (((Text.fields d line).zipIdx 1).mapM fun (field, i) ↦
      if wanted i then convertSize c field else .ok field).map [d].intercalate
  | none =>
    (((blankFields (line.length + 1) line).zipIdx 1).mapM fun
        (((blanks, field), i) : (Text × Text) × Nat) ↦
      if wanted i then
        (convertSize c field).map fun t ↦
          if i = 1 ∧ !blanks.isEmpty then padStart (blanks.length + field.length) t
          else if 1 < i then ' ' :: padStart (blanks.length + field.length - 1) t else t
      else .ok (blanks ++ field)).map List.flatten

/-- The program `numfmt`. -/
def writeSizes : Utility := fun arguments ↦ sizeForm.choose arguments fun c ↦ do
  let isWrong (letter : Char) : Bool :=
    (c.value? letter).any fun t ↦ (SizeScale.ofName? t).isNone
  match "tr".toList.find? isWrong with
  | some letter =>
    sizeForm.misuse ("invalid argument ".toList ++ curled ((c.value? letter).getD []) ++
      " for ".toList ++ curled (if letter = 't' then "--to".toList else "--from".toList))
  | none =>
    let (lines, headers) ← if c.others.isEmpty then do
        match ← readAll 0 with
        | .ok t => pure ((splitLines (if c.has 'z' then '\x00' else '\n') t).1,
            if c.has 'h' then (((c.value? 'h').bind naturalNumber?).getD 1) else 0)
        | .error _ => pure ([], 0)
      else pure (c.others, 0)
    for line in lines.take headers do putLine line
    let method := String.ofList ((c.value? 'm').getD "abort".toList)
    let mut status := 0
    for line in lines.drop headers do
      match convertLine c line with
      | .ok t => putLine t
      | .error message =>
        if method != "ignore" then tellOf "numfmt" message
        if method = "abort" then return 2
        if method = "fail" then status := 2
        putLine line
    return status

/-! ### Expressions -/

/-- Why an expression has no value: the status and the words. -/
abbrev Refused := Nat × Text

/-- The value of a text as a number. -/
def integerOf (t : Text) : Except Refused Int :=
  let (sign, digits) := match t with
    | '-' :: rest => ((-1 : Int), rest)
    | t => (1, t)
  if isDigits digits then .ok (sign * Text.digitsValue digits)
  else .error (2, "non-integer argument".toList)

/-- Whether a value counts as nothing. -/
def isNothing (t : Text) : Bool :=
  let digits := if t.head? = some '-' then t.drop 1 else t
  t.isEmpty || (!digits.isEmpty && digits.all (· = '0'))

/-- What a text matches of a basic expression at its start: its first group, or its length. -/
def matchStart (t source : Text) : Except Refused Text :=
  match Expression.read .basic (wide source) with
  | .error f => .error (2, f.words.toList)
  | .ok e =>
    let characters := (wide t).toArray
    let found := Expression.longestAt characters e 0
    if 0 < e.groupCount then
      .ok (narrow (match found with
        | some (_, groups) => match groups.lookup 1 with
          | some (i, j) => (characters.extract i j).toList
          | none => []
        | none => []))
    else .ok (shown ((found.map Prod.fst).getD 0))

/-- The value of two operands and the operator between them. -/
def combine (operator : String) (a b : Text) : Except Refused Text :=
  let truth (value : Bool) : Except Refused Text := .ok (if value then ['1'] else ['0'])
  let compared (test : Ordering → Bool) : Except Refused Text :=
    match integerOf a, integerOf b with
    | .ok m, .ok n => truth (test (compare m n))
    | _, _ => truth (test (compare (String.ofList a) (String.ofList b)))
  let computed (act : Int → Int → Except Refused Int) : Except Refused Text :=
    match integerOf a, integerOf b with
    | .ok m, .ok n => (act m n).map Text.ofInt
    | .error f, _ => .error f
    | _, .error f => .error f
  let divided (act : Int → Int → Int) : Except Refused Text := computed fun m n ↦
    if n = 0 then .error (2, "division by zero".toList) else .ok (act m n)
  match operator with
  | "|" => .ok (if !isNothing a then a else if !isNothing b then b else ['0'])
  | "&" => .ok (if isNothing a ∨ isNothing b then ['0'] else a)
  | "<" => compared (· = .lt)
  | "<=" => compared (· != .gt)
  | "=" => compared (· = .eq)
  | "==" => compared (· = .eq)
  | "!=" => compared (· != .eq)
  | ">=" => compared (· != .lt)
  | ">" => compared (· = .gt)
  | "+" => computed fun m n ↦ .ok (m + n)
  | "-" => computed fun m n ↦ .ok (m - n)
  | "*" => computed fun m n ↦ .ok (m * n)
  | "/" => divided Int.tdiv
  | "%" => divided Int.tmod
  | _ => matchStart a b

/-- The operators by levels, those that bind least first. -/
def expressionLevels : List (List String) :=
  [["|"], ["&"], ["<", "<=", "=", "==", "!=", ">=", ">"], ["+", "-"], ["*", "/", "%"], [":"]]

/-- That an argument is missing after another one. -/
def missingAfter (last : Text) : Refused :=
  (2, "syntax error: missing argument after ".toList ++ curled last)

mutual

/-- The value of an operand, and the words after it. -/
def operandValue : Nat → Text → List Text → Except Refused (Text × List Text)
  | 0, last, _ => .error (missingAfter last)
  | _, last, [] => .error (missingAfter last)
  | n + 1, _, word :: rest =>
    let one (act : Text → Except Refused Text) : Except Refused (Text × List Text) :=
      match operandValue n word rest with
      | .error f => .error f
      | .ok (a, after) => (act a).map fun t ↦ (t, after)
    let two (act : Text → Text → Except Refused Text) : Except Refused (Text × List Text) :=
      match operandValue n word rest with
      | .error f => .error f
      | .ok (a, after) =>
        match operandValue n a after with
        | .error f => .error f
        | .ok (b, after) => (act a b).map fun t ↦ (t, after)
    match String.ofList word with
    | "(" =>
      match levelValue n 0 word rest with
      | .error f => .error f
      | .ok (t, [')'] :: after) => .ok (t, after)
      | .ok (t, []) =>
        .error (2, "syntax error: expecting ')' after ".toList ++ curled (rest.getLast?.getD t))
      | .ok (_, next :: _) =>
        .error (2, "syntax error: expecting ')' instead of ".toList ++ curled next)
    | ")" => .error (2, "syntax error: unexpected ')'".toList)
    | "+" =>
      match rest with
      | t :: after => .ok (t, after)
      | [] => .error (missingAfter word)
    | "length" => one fun t ↦ .ok (shown (wide t).length)
    | "match" => two matchStart
    | "index" => two fun t set ↦
        .ok (shown (((wide t).findIdx? fun c ↦ (wide set).contains c).map (· + 1) |>.getD 0))
    | "substr" =>
      match operandValue n word rest with
      | .error f => .error f
      | .ok (t, after) =>
        match operandValue n t after with
        | .error f => .error f
        | .ok (place, after) =>
          match operandValue n place after with
          | .error f => .error f
          | .ok (count, after) =>
            match integerOf place, integerOf count with
            | .ok p, .ok k =>
              let part := narrow (((wide t).drop (p.toNat - 1)).take k.toNat)
              .ok (if p ≤ 0 ∨ k ≤ 0 then [] else part, after)
            | _, _ => .ok ([], after)
    | _ => .ok (word, rest)

/-- The value of an expression of a level, and the words after it. -/
def levelValue : Nat → Nat → Text → List Text → Except Refused (Text × List Text)
  | 0, _, last, _ => .error (missingAfter last)
  | n + 1, level, last, words =>
    match expressionLevels[level]? with
    | none => operandValue n last words
    | some operators =>
      match levelValue n (level + 1) last words with
      | .error f => .error f
      | .ok (a, rest) => restValue n level operators a rest

/-- The value of an expression whose first operand is known, and the words after it. -/
def restValue : Nat → Nat → List String → Text → List Text → Except Refused (Text × List Text)
  | 0, _, _, a, words => .ok (a, words)
  | n + 1, level, operators, a, words =>
    match words with
    | word :: rest =>
      if operators.contains (String.ofList word) then
        match levelValue n (level + 1) word rest with
        | .error f => .error f
        | .ok (b, after) =>
          match combine (String.ofList word) a b with
          | .error f => .error f
          | .ok t => restValue n level operators t after
      else .ok (a, words)
    | [] => .ok (a, [])

end

/-- The program `expr`. -/
def evaluateWords : Utility := fun arguments ↦ do
  let words := if arguments.head? = some "--".toList then arguments.drop 1 else arguments
  if words.isEmpty then
    tell "expr: missing operand\nTry 'expr --help' for more information.\n".toList
    return 2
  match levelValue (8 * words.length + 16) 0 [] words with
  | .error (status, message) => failOf "expr" status message
  | .ok (t, []) =>
    putLine t
    return if isNothing t then 1 else 0
  | .ok (_, next :: _) => failOf "expr" 2 ("syntax error: unexpected argument ".toList ++
      curled next)

end CommandScript.Shell
