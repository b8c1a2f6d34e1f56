import CommandScript.Shell.Program.RuleScript.Parser

/-!
# Records and fields

A text is cut into records, and a record into fields, by separators: blanks, a character, or an
expression. A separator of one character stands for itself. Records may also be separated by empty
lines.
-/
namespace CommandScript.Shell.RuleScript

/-- What stands **between** the parts of a text. -/
inductive Separator where
  /-- Blanks and line ends, any number of them; those at the ends separate nothing. -/
  | blanks
  /-- Nothing: every character is a part. -/
  | nothing
  /-- A character. -/
  | character (c : Char)
  /-- What an expression matches. -/
  | matching (e : Expression)

namespace Separator

/-- Whether a character is a blank between fields. -/
def isBlank (c : Char) : Bool := c = ' ' || c = '\t' || c = '\n'

/-- The stretches of a text outside of some matches. -/
def between (t : Array Char) : Nat → List Expression.Match → List Text
  | i, [] => [(t.extract i t.size).toList]
  | i, m :: rest => (t.extract i m.span.1).toList :: between t m.span.2 rest

/-- The parts of a text. -/
def parts (s : Separator) (t : Text) : List Text :=
  if t.isEmpty then []
  else match s with
    | .blanks => (Text.fields ' ' (t.map fun c ↦ if isBlank c then ' ' else c)).filter (!·.isEmpty)
    | .nothing => t.map fun c ↦ [c]
    | .character c => Text.fields c t
    | .matching e =>
      let a := t.toArray
      between a 0 ((e.everyMatch a).filter fun m ↦ m.span.1 < m.span.2)

end Separator

/-- What ends a **record**. -/
inductive RecordEnd where
  /-- A character. -/
  | character (c : Char)
  /-- Empty lines. -/
  | emptyLines
  /-- What an expression matches. -/
  | matching (e : Expression)

namespace RecordEnd

/-- A text up to an empty line, and what follows. -/
def paragraph : Nat → Text → Text → Text × Text
  | 0, t, rest => (t.reverse, rest)
  | _, t, [] => (t.reverse, [])
  | n + 1, t, c :: rest =>
    if c = '\n' ∧ (rest.isEmpty ∨ rest.head? = some '\n') then
      (t.reverse, rest.dropWhile (· = '\n'))
    else paragraph n (c :: t) rest

/-- The first match of an expression from a place on that has a length. -/
def firstLong? (e : Expression) (t : Array Char) : Nat → Nat → Option Expression.Match
  | 0, _ => none
  | n + 1, i =>
    match e.find? t i with
    | none => none
    | some m => if m.span.1 < m.span.2 then some m else firstLong? e t n (m.span.1 + 1)

/-- The first record of a text, and what follows it. -/
def first? (r : RecordEnd) (t : Text) : Option (Text × Text) :=
  if t.isEmpty then none
  else match r with
    | .character c =>
      let record := t.takeWhile (· != c)
      some (record, t.drop (record.length + 1))
    | .emptyLines =>
      let t := t.dropWhile (· = '\n')
      if t.isEmpty then none else some (paragraph (t.length + 1) [] t)
    | .matching e =>
      let a := t.toArray
      match firstLong? e a (a.size + 1) 0 with
      | some m => some ((a.extract 0 m.span.1).toList, (a.extract m.span.2 a.size).toList)
      | none => some (t, [])

end RecordEnd

/-- A replacement in which each ampersand stands for what has been matched. A backslash keeps one,
and itself where it stands before one. -/
def replaceBy (whole : Text) : Nat → Text → Text
  | 0, _ => []
  | _, [] => []
  | n + 1, '&' :: rest => whole ++ replaceBy whole n rest
  | n + 1, '\\' :: rest =>
    let more := rest.takeWhile (· = '\\')
    match rest.drop more.length with
    | '&' :: after =>
      let count := more.length + 1
      List.replicate (count / 2) '\\' ++ (if count % 2 = 1 then ['&'] else whole) ++
        replaceBy whole n after
    | after => '\\' :: more ++ replaceBy whole n after
  | n + 1, c :: rest => c :: replaceBy whole n rest

/-- A text with matches replaced, from a place on. -/
def replaceMatches (t : Array Char) (replacement : Text) : Nat → List Expression.Match → Text
  | i, [] => (t.extract i t.size).toList
  | i, m :: rest =>
    (t.extract i m.span.1).toList ++
      replaceBy (t.extract m.span.1 m.span.2).toList (replacement.length + 1) replacement ++
      replaceMatches t replacement m.span.2 rest

/-- The part of a text from a place on, of a length, which both may lie outside of it. -/
def partOf (t : Text) (start : Int) (length : Option Int) : Text :=
  let length := length.map fun n ↦ if start < 1 then n - start else n
  let rest := t.drop (start - 1).toNat
  match length with
  | none => rest
  | some n => rest.take n.toNat

end CommandScript.Shell.RuleScript
