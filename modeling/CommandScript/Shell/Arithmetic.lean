import CommandScript.Shell.Binding

/-!
# Arithmetic

Arithmetic expressions are read as trees and then computed on numbers of 64 bits, with variables and
members of arrays as operands that can be changed on the way. A variable holds the text of a further
expression. What is wrong with an expression is told by a few words and by the part of the text at
which it is noticed.
-/
namespace CommandScript.Shell

/-- An **arithmetic** expression. -/
inductive Arithmetic where
  /-- A number. -/
  | number (n : Int)
  /-- A variable, or a member of an array with its subscript. -/
  | variable (name : Text) (subscript : Option Text)
  /-- An operator before its operand. -/
  | unary (operator : Char) (e : Arithmetic)
  /-- An operator between its operands, with the text from the second on. -/
  | binary (operator : Text) (left right : Arithmetic) (token : Text)
  /-- A variable gets a value, which an operator may join to the old one. -/
  | assign (name : Text) (subscript : Option Text) (operator : Text) (e : Arithmetic)
    (token : Text)
  /-- A variable is changed by a step, and its value before or after that counts. -/
  | step (name : Text) (subscript : Option Text) (amount : Int) (before : Bool)
  /-- One of two expressions counts. -/
  | choose (condition yes no : Arithmetic)

/-- What is wrong with an arithmetic expression. -/
structure ArithmeticFault where
  /-- The words for it. -/
  words : String
  /-- The text at which it is noticed. -/
  token : Text
  deriving DecidableEq, Repr

/-- The words for a choice without its second expression. -/
def choiceLacks : String := "\x60:' expected for conditional expression"

/-- What is said about a fault of an expression, in one of the languages. -/
def ArithmeticFault.message (f : ArithmeticFault) (standard : Bool) (source : Text) : Text :=
  if standard then
    let words := if f.words = "division by 0" then "division by zero"
      else if f.words = "syntax error: operand expected" then "expecting primary"
      else if f.words = choiceLacks then "expecting ':'"
      else "expecting EOF"
    "arithmetic expression: ".toList ++ words.toList ++ ": \"".toList ++ source ++ ['"']
  else source ++ ": ".toList ++ f.words.toList ++ " (error token is \"".toList ++ f.token ++
    "\")".toList

namespace Arithmetic

/-! ### Reading -/

/-- Something read from a text, with the text that follows, or a fault. -/
abbrev Reads (α : Type) := Except ArithmeticFault (α × Text)

/-- A text from its first character on that is no blank. -/
def trimLeft (t : Text) : Text := t.dropWhile isSpace

/-- The operators between operands by their level, a higher one binding more closely. -/
def levels : List (List Text) := [
  ["||"], ["&&"], ["|"], ["^"], ["&"], ["==", "!="], ["<=", ">=", "<", ">"], ["<<", ">>"],
  ["+", "-"], ["*", "/", "%"]].map (·.map String.toList)

/-- Every operator of more than one character, longer ones first. -/
def longOperators : List Text := [
  "<<=", ">>=", "**", "++", "--", "<<", ">>", "<=", ">=", "==", "!=", "&&", "||", "+=", "-=", "*=",
  "/=", "%=", "&=", "|=", "^="].map String.toList

section Reading

variable (standard : Bool)

/-- The operators that the standard lacks. -/
def extendedOperators : List Text := ["**", "++", "--"].map String.toList

/-- The operator that a text opens with, and what follows it. -/
def operator? (t : Text) : Option (Text × Text) :=
  let known := longOperators.filter fun o ↦ !(standard && extendedOperators.contains o)
  match known.findSome? fun o ↦ (Text.dropStart? o t).map fun after ↦ (o, after) with
  | some found => some found
  | none =>
    match t with
    | c :: rest => if "+-*/%<>=!~&|^?:,()".toList.contains c then some ([c], rest) else none
    | [] => none

/-- The signs of assignment, each with the operator that joins the old value. -/
def assignments : List (Text × Text) :=
  ("=".toList, []) :: ["+", "-", "*", "/", "%", "<<", ">>", "&", "^", "|"].map fun o ↦
    (o.toList ++ ['='], o.toList)

/-- The value of a digit in a base of up to 64. -/
def digitValue? (base : Nat) (c : Char) : Option Nat :=
  let value? : Option Nat :=
    if c.isDigit then some (c.toNat - '0'.toNat)
    else if c.isLower then some (c.toNat - 'a'.toNat + 10)
    else if c.isUpper then
      some (c.toNat - 'A'.toNat + (if base ≤ 36 then 10 else 36))
    else if c = '@' then some 62
    else if c = '_' then some 63
    else none
  value?.filter (· < base)

/-- The number that digits spell in a base. -/
def inBase (base : Nat) (whole digits : Text) : Except ArithmeticFault Int :=
  match digits.mapM (digitValue? base) with
  | some values =>
    .ok (Int.bmod (values.foldl (fun (n : Nat) d ↦ n * base + d) 0 : Nat) (Nat.pow 2 64))
  | none => .error ⟨"value too great for base", whole⟩

/-- The greatest number of 64 bits. -/
def greatest : Nat := Nat.pow 2 63 - 1

/-- The number that a text opens with in the standard: decimal, octal with a zero in front, or
hexadecimal. One that is too great counts as the greatest. -/
def standardNumber (t : Text) : Nat × Text :=
  let digitsOf (base : Nat) (t : Text) : Nat × Text :=
    let within (c : Char) : Bool := (digitValue? base (if base = 16 then c.toLower else c)).isSome
    ((t.takeWhile within).foldl
      (fun n c ↦ n * base + (digitValue? base (if base = 16 then c.toLower else c)).getD 0) 0,
      t.dropWhile within)
  match t with
  | '0' :: x :: c :: rest =>
    if (x = 'x' ∨ x = 'X') ∧ (digitValue? 16 c.toLower).isSome then digitsOf 16 (c :: rest)
    else digitsOf 8 t
  | '0' :: _ => digitsOf 8 t
  | t => digitsOf 10 t

/-- The number that a text opens with: decimal, octal with a zero in front, hexadecimal, or with its
base before a number sign. -/
def readNumber (t : Text) : Reads Arithmetic :=
  if standard then
    let (n, after) := standardNumber t
    .ok (.number (min n greatest : Nat), after)
  else
  let within (c : Char) : Bool := c.isAlphanum || c = '_' || c = '@' || c = '#'
  let whole := t.takeWhile within
  let after := t.dropWhile within
  let value := match whole with
    | '0' :: 'x' :: digits => inBase 16 whole digits
    | '0' :: 'X' :: digits => inBase 16 whole digits
    | '0' :: digit :: digits =>
      if whole.contains '#' then .error ⟨"invalid number", whole⟩
      else inBase 8 whole (digit :: digits)
    | _ =>
      match whole.dropWhile (· != '#') with
      | _ :: digits =>
        let base := Text.digitsValue (whole.takeWhile (· != '#'))
        if base < 2 ∨ 64 < base then .error ⟨"invalid arithmetic base", whole⟩
        else if digits.isEmpty then .error ⟨"invalid integer constant", whole⟩
        else inBase base whole digits
      | [] => inBase 10 whole whole
  value.map fun n ↦ (.number n, after)

/-- The variable that a text opens with, its subscript, and what follows it. -/
def readVariable (t : Text) : Text × Option Text × Text :=
  let name := t.takeWhile withinName
  match t.drop name.length with
  | '[' :: rest =>
    match closeNested '[' ']' none 0 rest with
    | some (subscript, after) => (name, some subscript, after)
    | none => (name, none, '[' :: rest)
  | after => (name, none, after)

/-- An operand where nothing else can stand: a number or a variable, which may be stepped. -/
def readAtom (last t : Text) : Reads Arithmetic :=
  match t with
  | [] => .error ⟨"syntax error: operand expected", last⟩
  | c :: _ =>
    if c.isDigit then readNumber standard t
    else if opensName c ∧ standard then
      .ok (.variable (t.takeWhile withinName) none, t.dropWhile withinName)
    else if opensName c then
      let (name, subscript, after) := readVariable t
      match trimLeft after with
      | '+' :: '+' :: after => .ok (.step name subscript 1 true, after)
      | '-' :: '-' :: after => .ok (.step name subscript (-1) true, after)
      | _ => .ok (.variable name subscript, after)
    else .error ⟨"syntax error: operand expected", t⟩

mutual

/-- An operand: signs before a parenthesis, a number or a variable. The last operator is what is
shown when the operand is missing. -/
def readOperand : Nat → Text → Text → Reads Arithmetic
  | 0, last, _ => .error ⟨"expression recursion level exceeded", last⟩
  | n + 1, last, t =>
    let t := trimLeft t
    let stepped (amount : Int) (sign : Char) (after : Text) : Reads Arithmetic :=
      match trimLeft after with
      | c :: rest =>
        if opensName c then
          let (name, subscript, after) := readVariable (c :: rest)
          .ok (.step name subscript amount false, after)
        else (readOperand n t after).map fun (e, after) ↦
          (.unary sign (.unary sign e), after)
      | [] => .error ⟨"syntax error: operand expected", t⟩
    let steps (t : Text) : Option (Int × Char × Text) :=
      match t with
      | '+' :: '+' :: after => some (1, '+', after)
      | '-' :: '-' :: after => some (-1, '-', after)
      | _ => none
    match if standard then none else steps t with
    | some (amount, sign, after) => stepped amount sign after
    | none =>
    match t with
    | '(' :: after =>
      match readAll n after with
      | .ok (e, after) =>
        match trimLeft after with
        | ')' :: after => .ok (e, after)
        | rest => .error ⟨"missing \x60)'", if rest.isEmpty then after else rest⟩
      | .error f => .error f
    | c :: after =>
      if "-+!~".toList.contains c then
        (readOperand n t after).map fun (e, after) ↦ (.unary c e, after)
      else readAtom standard last t
    | [] => readAtom standard last t

/-- A power of operands; the one at the right is computed first. -/
def readPower : Nat → Text → Text → Reads Arithmetic
  | 0, last, _ => .error ⟨"expression recursion level exceeded", last⟩
  | n + 1, last, t =>
    match readOperand n last t with
    | .error f => .error f
    | .ok (e, after) =>
      match operator? standard (trimLeft after) with
      | some (o, rest) =>
        if o = "**".toList then
          (readPower n (trimLeft after) rest).map fun (e', after) ↦
            (.binary o e e' (trimLeft rest), after)
        else .ok (e, after)
      | none => .ok (e, after)

/-- Operands joined by operators of some levels, the outermost level first. -/
def readLevels : Nat → List (List Text) → Text → Text → Reads Arithmetic
  | 0, _, last, _ => .error ⟨"expression recursion level exceeded", last⟩
  | n + 1, [], last, t => readPower n last t
  | n + 1, level :: inner, last, t =>
    match readLevels n inner last t with
    | .error f => .error f
    | .ok (e, after) => readMore n level inner e after

/-- The rest of operands joined by operators of one level. -/
def readMore : Nat → List Text → List (List Text) → Arithmetic → Text → Reads Arithmetic
  | 0, _, _, e, t => .ok (e, t)
  | n + 1, level, inner, e, t =>
    match operator? standard (trimLeft t) with
    | some (o, rest) =>
      if level.contains o then
        match readLevels n inner (trimLeft t) rest with
        | .error f => .error f
        | .ok (e', after) => readMore n level inner (.binary o e e' (trimLeft rest)) after
      else .ok (e, t)
    | none => .ok (e, t)

/-- An assignment, or a choice. -/
def readAssignment : Nat → Text → Text → Reads Arithmetic
  | 0, last, _ => .error ⟨"expression recursion level exceeded", last⟩
  | n + 1, last, t =>
    match readLevels n levels last t with
    | .error f => .error f
    | .ok (e, after) =>
      match operator? standard (trimLeft after) with
      | some (['?'], rest) =>
        match readAll n rest with
        | .error f => .error f
        | .ok (yes, between) =>
          match trimLeft between with
          | ':' :: rest' =>
            (readAssignment n (trimLeft between) rest').map fun (no, after) ↦
              (.choose e yes no, after)
          | _ => .error ⟨choiceLacks, trimLeft rest⟩
      | some (o, rest) =>
        match assignments.lookup o with
        | some joining =>
          match e with
          | .variable name subscript =>
            (readAssignment n (trimLeft after) rest).map fun (e', after) ↦
              (.assign name subscript joining e' (trimLeft rest), after)
          | _ => .error ⟨"attempted assignment to non-variable", trimLeft after⟩
        | none => .ok (e, after)
      | none => .ok (e, after)

/-- Expressions separated by commas, of which the last counts. -/
def readAll : Nat → Text → Reads Arithmetic
  | 0, t => .error ⟨"expression recursion level exceeded", t⟩
  | n + 1, t =>
    match readAssignment n t t with
    | .error f => .error f
    | .ok (e, after) =>
      match trimLeft after, standard with
      | ',' :: rest, false =>
        (readAll n rest).map fun (e', after) ↦ (.binary [','] e e' rest, after)
      | _, _ => .ok (e, after)

end

/-- The expression that a whole text spells; a blank text is zero. -/
def read (source : Text) : Except ArithmeticFault Arithmetic :=
  if source.all isSpace ∧ !standard then .ok (.number 0)
  else match readAll standard (20 * source.length + 40) source with
    | .error f => .error f
    | .ok (e, after) =>
      match trimLeft after with
      | [] => .ok e
      | c :: rest =>
        if (operator? standard (c :: rest)).isSome || c.isAlphanum || c = '_' then
          .error ⟨"syntax error in expression", c :: rest⟩
        else .error ⟨"syntax error: invalid arithmetic operator", c :: rest⟩

end Reading

/-! ### Computing -/

/-- A number brought into 64 bits. -/
def wrap (n : Int) : Int := Int.bmod n (Nat.pow 2 64)

/-- The number of a truth value. -/
def truth (b : Bool) : Int := if b then 1 else 0

/-- A number as the natural number of the same 64 bits. -/
def bits (n : Int) : Nat := (Int.emod n (Int.pow 2 64)).toNat

/-- A number to a power, in 64 bits. -/
def power (m : Int) : Nat → Nat → Int
  | 0, _ => 1
  | _, 0 => 1
  | fuel + 1, n =>
    let half := power (wrap (m * m)) fuel (n / 2)
    if n % 2 = 1 then wrap (half * m) else half

/-- The value of an operator between two values. -/
def apply (operator token : Text) (m n : Int) : Except ArithmeticFault Int :=
  let shift := bits n % 64
  match String.ofList operator with
  | "+" => .ok (wrap (m + n))
  | "-" => .ok (wrap (m - n))
  | "*" => .ok (wrap (m * n))
  | "/" => if n = 0 then .error ⟨"division by 0", token⟩ else .ok (wrap (m.tdiv n))
  | "%" => if n = 0 then .error ⟨"division by 0", token⟩ else .ok (wrap (m.tmod n))
  | "**" =>
    if n < 0 then .error ⟨"exponent less than 0", token.drop 1⟩ else .ok (power m 64 n.toNat)
  | "<" => .ok (truth (m < n))
  | ">" => .ok (truth (n < m))
  | "<=" => .ok (truth (m ≤ n))
  | ">=" => .ok (truth (n ≤ m))
  | "==" => .ok (truth (m = n))
  | "!=" => .ok (truth (m ≠ n))
  | "&" => .ok (wrap (bits m &&& bits n))
  | "|" => .ok (wrap (bits m ||| bits n))
  | "^" => .ok (wrap (bits m ^^^ bits n))
  | "<<" => .ok (wrap (m * Int.pow 2 shift))
  | ">>" => .ok (wrap (m / Int.pow 2 shift))
  | _ => .ok n

/-- Leaves with a fault in an expression whose text is given. -/
def refuse {α : Type} (source : Text) (f : ArithmeticFault) : Act α := do
  let s ← get
  let about := if s.speaking.isEmpty ∨ s.isStandard then [] else s.speaking ++ ": ".toList
  Shell.refuse .valueless (about ++ f.message s.isStandard source)

/-- The name of a variable that is meant by a name, and the key of one of its members where a
subscript is given, with a function for the values of other expressions. -/
def placeOf (other : Text → Act Int) (name : Text) (subscript : Option Text) :
    Act (Text × Option Key) := do
  let s ← get
  let (name, subscript) := match State.splitReference (s.referred name) with
    | (base, none) => (base, subscript)
    | (base, some inner) => (base, some inner)
  match subscript with
  | none => return (name, none)
  | some t =>
    let v := (s.computed? name).or (s.stored? name)
    if v.any Variable.isMap then return (name, some (.text t))
    else if t.isEmpty ∨ t = ['@'] ∨ t = ['*'] then
      Shell.refuse .drops (name ++ '[' :: t ++ "]: bad array subscript".toList)
    else
      let n ← other t
      let numbers := ((v.map fun v ↦ v.content.asList).getD []).map fun m ↦ (m.1 : Int)
      let last := numbers.foldl max (-1)
      let n := if n < 0 then last + 1 + n else n
      if n < 0 then Shell.refuse .drops (name ++ '[' :: t ++ "]: bad array subscript".toList)
      else return (name, some (.number n.toNat))

/-- The place of a variable in an expression. Quotes in a subscript do not count. -/
def placeIn (other : Text → Act Int) (name : Text) (subscript : Option Text) :
    Act (Text × Option Key) :=
  placeOf other name (subscript.map fun t ↦
    t.filter fun c ↦ c != Text.doubleQuote && c != Text.singleQuote)

/-- The value at a place. -/
def read? (place : Text × Option Key) : Act (Option Text) := do
  match place with
  | (name, none) => lookup? name
  | (name, some key) =>
    let s ← get
    return (((s.computed? name).or (s.stored? name)).filter Variable.assigned).bind fun v ↦
      v.content.member? key

/-- The value at a place where one is needed. -/
def readPlace (place : Text × Option Key) (spelled : Text) : Act Text := do
  match ← read? place with
  | some t => return t
  | none =>
    if (← get).isOn .nounset ∧ !(← get).isStandard then
      Shell.refuse .aborts (spelled ++ ": unbound variable".toList)
    else return []

/-- Gives a value to a place. -/
def writePlace (place : Text × Option Key) (n : Int) : Act Unit := do
  let (name, key) := place
  if ← isFixed name then refuseFixed name
  let v := ((← get).stored? name).getD .blank
  let content := match key with
    | none => if v.isArray then v.content.set (if v.isMap then .text ['0'] else .number 0)
        (Text.ofInt n) else .text (v.attributes.shape (Text.ofInt n))
    | some key => match v.content, key with
      | .text _, .number k =>
        .list (Content.insert k (Text.ofInt n) (if v.assigned then v.content.asList else []))
      | content, key => content.set key (Text.ofInt n)
  store name { v with content := content, assigned := true }

/-- The value of an expression whose text is given, with a function for the values of other
expressions. -/
def value (other : Text → Act Int) (source : Text) : Arithmetic → Act Int
  | .number n => return n
  | .variable name subscript => do
    let spelling := match subscript with
      | some t => name ++ '[' :: t ++ [']']
      | none => name
    other (← readPlace (← placeIn other name subscript) spelling)
  | .unary operator e => do
    let n ← value other source e
    return wrap (if operator = '-' then -n else if operator = '!' then truth (n = 0)
      else if operator = '~' then -n - 1 else n)
  | .binary operator left right token => do
    let m ← value other source left
    if operator = "&&".toList then
      if m = 0 then return 0 else return truth ((← value other source right) ≠ 0)
    else if operator = "||".toList then
      if m ≠ 0 then return 1 else return truth ((← value other source right) ≠ 0)
    else
      let n ← value other source right
      match apply operator token m n with
      | .ok v => return v
      | .error f => refuse source f
  | .assign name subscript operator e token => do
    let place ← placeIn other name subscript
    let old ← if operator.isEmpty then pure 0 else do other (← readPlace place name)
    let n ← value other source e
    match if operator.isEmpty then .ok n else apply operator token old n with
    | .ok v =>
      writePlace place v
      return v
    | .error f => refuse source f
  | .step name subscript amount before => do
    let place ← placeIn other name subscript
    let old ← other (← readPlace place name)
    let v := wrap (old + amount)
    writePlace place v
    return if before then old else v
  | .choose condition yes no => do
    if (← value other source condition) ≠ 0 then value other source yes
    else value other source no

/-- The value of a variable in the standard: a number, perhaps with a sign. -/
def standardValue (t : Text) : Act Int := do
  let body := trimLeft t
  let (isNegative, digits) : Bool × Text := match body with
    | '-' :: rest => (true, rest)
    | '+' :: rest => (false, rest)
    | rest => (false, rest)
  let (n, after) := standardNumber digits
  let isNumber := digits.head?.any Char.isDigit && after.all isSpace && n ≤ greatest
  if t.isEmpty then return 0
  else if isNumber then return if isNegative then -n else n
  else Shell.refuse .aborts ("Illegal number: ".toList ++ t)

/-- The value of an expression that a text spells, where variables may be expressions up to a
depth. -/
def valueFrom : Nat → Text → Act Int
  | 0, source => refuse source ⟨"expression recursion level exceeded", source⟩
  | n + 1, source => do
    let source := if (← get).isStandard then source else trimLeft source
    match wholeNumber? source with
    | some v =>
      if isDigits source ∧ (source.head? ≠ some '0' ∨ source.length = 1) then return v
    | none => pure ()
    match read (← get).isStandard source with
    | .ok e =>
      let isStandard := (← get).isStandard
      value (if isStandard then standardValue else valueFrom n) source e
    | .error f => refuse source f

end Arithmetic

/-- The value of an arithmetic expression. -/
def arithmetic (source : Text) : Act Int := Arithmetic.valueFrom 64 source

/-- Goes on with a name for reports of arithmetic errors. -/
def speakingAs {α : Type} (name : String) (act : Act α) : Act α := do
  let old := (← get).speaking
  modify fun s ↦ { s with speaking := name.toList }
  andAlways act (modify fun s ↦ { s with speaking := old })

end CommandScript.Shell
