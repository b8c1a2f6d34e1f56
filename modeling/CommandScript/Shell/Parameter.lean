import CommandScript.Shell.Arithmetic
import CommandScript.Shell.Field

/-!
# Parameters

What stands between braces after a dollar sign: the name of a parameter, perhaps with a subscript,
and an operation on its value. Operations count in characters, so that their functions here take
wide texts. A parameter that stands for several values has an operation done on each of them.
-/
namespace CommandScript.Shell

/-! ### Forms -/

/-- What stands between braces after a dollar sign, taken apart. -/
structure ParameterForm where
  /-- Whether the length of the value is meant. -/
  counts : Bool
  /-- Whether the value is the name of what is meant. -/
  refers : Bool
  /-- The name of the parameter. -/
  name : Text
  /-- The source of its subscript. -/
  subscript : Option Text
  /-- The operation after it. -/
  operation : Text
  deriving DecidableEq, Repr

/-- The parameter that a text opens with, and what follows it. -/
def splitParameter : Text → Text × Text
  | [] => ([], [])
  | c :: rest =>
    if c.isDigit then
      ((c :: rest).takeWhile Char.isDigit, (c :: rest).dropWhile Char.isDigit)
    else if opensName c then ((c :: rest).takeWhile withinName, (c :: rest).dropWhile withinName)
    else if "?$#!@*-".toList.contains c then ([c], rest)
    else ([], c :: rest)

/-- The subscript that a text goes on with, and what follows it. -/
def splitSubscript (t : Text) : Option (Text × Text) :=
  match t with
  | '[' :: rest => closeNested '[' ']' none 0 rest
  | _ => none

namespace ParameterForm

/-- Takes apart a text without signs in front. -/
def plain (counts refers : Bool) (t : Text) : ParameterForm :=
  let (name, after) := splitParameter t
  match if isVariableName name then splitSubscript after else none with
  | some (subscript, operation) => ⟨counts, refers, name, some subscript, operation⟩
  | none => ⟨counts, refers, name, none, after⟩

/-- Takes apart what stands between braces. A sign in front that nothing suitable follows is the
parameter itself. -/
def of (source : Text) : ParameterForm :=
  match source with
  | '#' :: c :: rest =>
    let f := plain true false (c :: rest)
    if f.name.isEmpty ∨ (!f.operation.isEmpty ∧ !opensName c ∧ !c.isDigit) then
      plain false false source
    else f
  | '!' :: c :: rest =>
    let f := plain false true (c :: rest)
    if f.name.isEmpty then plain false false source else f
  | _ => plain false false source

/-- Whether the form stands for all members of an array. -/
def isWhole (f : ParameterForm) : Bool := f.subscript = some ['@'] || f.subscript = some ['*']

/-- Whether the form stands for several values. -/
def isList (f : ParameterForm) : Bool :=
  f.name = ['@'] || f.name = ['*'] || f.isWhole ||
    (f.refers && f.operation = ['@']) || (f.refers && f.operation = ['*'])

/-- Whether several values are joined where they are quoted. -/
def joins (f : ParameterForm) : Bool :=
  f.name = ['*'] || f.subscript = some ['*'] || (f.refers && f.operation = ['*'])

/-- The parameter as a message shows it. -/
def shown (f : ParameterForm) : Text :=
  let isSign := f.name.all fun c ↦ !opensName c
  (if isSign then ['$'] else []) ++ f.name ++ (match f.subscript with
    | some t => '[' :: t ++ [']']
    | none => [])

end ParameterForm

/-- What is done where the value of a parameter lacks. -/
structure Fallback where
  /-- Whether an empty value counts as none. -/
  orEmpty : Bool
  /-- The sign of what is done. -/
  sign : Char
  /-- The word after the sign. -/
  word : Text
  deriving DecidableEq, Repr

/-- What an operation says is to be done where a value lacks. -/
def fallbackOf? (operation : Text) : Option Fallback :=
  let isSign (c : Char) : Bool := "-=?+".toList.contains c
  match operation with
  | ':' :: sign :: word => if isSign sign then some ⟨true, sign, word⟩ else none
  | sign :: word => if isSign sign then some ⟨false, sign, word⟩ else none
  | [] => none

/-! ### Parts -/

/-- The offset and the length of a part, as they stand on the two sides of a colon that is not one
of a choice between expressions. -/
def splitRange : Nat → Nat → Text → Text × Option Text
  | _, _, [] => ([], none)
  | depth, choices, c :: rest =>
    let keep (depth choices : Nat) : Text × Option Text :=
      let (t, after) := splitRange depth choices rest
      (c :: t, after)
    if c = '(' ∨ c = '\x7b' ∨ c = '[' then keep (depth + 1) choices
    else if c = ')' ∨ c = '\x7d' ∨ c = ']' then keep (depth - 1) choices
    else if 0 < depth then keep depth choices
    else if c = '?' then keep depth (choices + 1)
    else if c = ':' then
      match choices with
      | 0 => ([], some rest)
      | choices + 1 => keep depth choices
    else keep depth choices

/-- The part of a text from an offset on that has a length, both of which count from the end when
they are negative. -/
def slice (t : Text) (offset : Int) (length : Option Int) : Option Text :=
  let start := if offset < 0 then t.length + offset else offset
  if start < 0 ∨ t.length < start then some []
  else
    let rest := t.drop start.toNat
    match length with
    | none => some rest
    | some n =>
      if 0 ≤ n then some (rest.take n.toNat)
      else if rest.length + n < 0 then none
      else some (rest.take (rest.length + n).toNat)

/-! ### Replacing -/

/-- A text with the parts that a pattern matches replaced from a place on: the first one, or all. -/
def replaceFrom (a : Array Char) (p : Pattern) (all : Bool) (replacement : Text → Text) :
    Nat → Nat → Text
  | 0, i => (a.extract i a.size).toList
  | n + 1, i =>
    if a.size ≤ i then []
    else match (p.advance a [i]).getLast?.filter (i < ·) with
      | some j =>
        replacement (a.extract i j).toList ++
          if all then replaceFrom a p all replacement n j else (a.extract j a.size).toList
      | none => (a[i]?).toList ++ replaceFrom a p all replacement n (i + 1)

/-- A text with the parts that a pattern matches replaced: the first one, or all. -/
def replaceMatches (p : Pattern) (all : Bool) (replacement : Text → Text) (t : Text) : Text :=
  if t.isEmpty then if p.fits [] then replacement [] else []
  else replaceFrom t.toArray p all replacement (t.length + 1) 0

/-- A text with the part at its start or its end that a pattern matches replaced. -/
def replaceEnd (p : Pattern) (atStart : Bool) (replacement : Text → Text) (t : Text) : Text :=
  if atStart then
    match (p.startLengths t).getLast? with
    | some n => replacement (t.take n) ++ t.drop n
    | none => t
  else
    match (p.endLengths t).getLast? with
    | some n => t.take n ++ replacement (t.drop n)
    | none => t

/-- What a marked text puts in the place of something that has been found: an ampersand stands for
that, unless a backslash is before it. -/
def replacementOf (whole : Bool) (found : Text) : Marked → Text
  | ('\\', true) :: ('&', _) :: rest =>
    if whole then '&' :: replacementOf whole found rest
    else '\\' :: '&' :: replacementOf whole found rest
  | ('\\', true) :: ('\\', true) :: rest =>
    if whole then '\\' :: replacementOf whole found rest
    else '\\' :: '\\' :: replacementOf whole found rest
  | (c, meaningful) :: rest =>
    if c = '&' ∧ meaningful ∧ whole then found ++ replacementOf whole found rest
    else c :: replacementOf whole found rest
  | [] => []

/-- A text up to a slash that no backslash or quote keeps, and what follows it. -/
def splitReplacement : Option Char → Text → Text × Option Text
  | _, [] => ([], none)
  | _, [c] => if c = '/' then ([], some []) else ([c], none)
  | quote, c :: d :: rest =>
    let keep (quote : Option Char) : Text × Option Text :=
      let (p, r) := splitReplacement quote (d :: rest)
      (c :: p, r)
    if c = '\\' ∧ quote ≠ some Text.singleQuote then
      let (p, r) := splitReplacement quote rest
      (c :: d :: p, r)
    else if quote = some c then keep none
    else if quote.isSome then keep quote
    else if c = Text.singleQuote ∨ c = Text.doubleQuote then keep (some c)
    else if c = '/' then ([], some (d :: rest))
    else keep none

/-! ### Letters -/

/-- A text whose first letter, or every one, is changed where a pattern matches it. -/
def changeLetters (change : Char → Char) (all : Bool) (p : Option Pattern) (t : Text) : Text :=
  let turn (c : Char) : Char := if p.all fun p ↦ p.fits [c] then change c else c
  if all then t.map turn else match t with
    | [] => []
    | c :: rest => turn c :: rest

end CommandScript.Shell
