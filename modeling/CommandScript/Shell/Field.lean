import CommandScript.Shell.Pattern

/-!
# Fields

An expanded word is a row of **segments**. Quoted segments stand for themselves, plain ones stay in
one field but may be parts of a pattern, and values are split at the separators that they hold.
Blank separators at the two ends of a field do not count; every other separator ends a field, even
an empty one.
-/
namespace CommandScript.Shell

/-- A part of an expanded word. -/
inductive Segment where
  /-- Text that stands for itself. -/
  | quoted (t : Text)
  /-- Text of one field in which signs of patterns have their meaning. -/
  | plain (t : Text)
  /-- Text that is split at its separators, and in which signs of patterns have their meaning. -/
  | value (t : Text)
  /-- The end of one field and the start of another. -/
  | boundary
  deriving DecidableEq, Repr

/-- Segments as a text whose signs of patterns are marked. -/
def markedSegments (segments : List Segment) : Marked :=
  segments.flatMap fun
    | .quoted t => Marked.ofText false t
    | .plain t => Marked.ofText true t
    | .value t => Marked.ofText true t
    | .boundary => Marked.ofText false [' ']

/-- The text of segments, all in one. -/
def joined (segments : List Segment) : Text :=
  segments.flatMap fun
    | .quoted t => t
    | .plain t => t
    | .value t => t
    | .boundary => [' ']

/-- Where the splitting of segments stands. -/
structure Splitting where
  /-- The fields that are complete, the latest first. -/
  fields : List Marked
  /-- The characters of the field under way, the latest first, if one has been begun. -/
  current : Option Marked
  /-- Whether a blank has just ended a field, so that a separator after it belongs to it. -/
  ended : Bool
  deriving DecidableEq, Repr

namespace Splitting

/-- Ends the field under way. -/
def close (x : Splitting) : Splitting :=
  match x.current with
  | some field => { x with fields := field.reverse :: x.fields, current := none }
  | none => x

/-- Adds a text to the field under way, which is begun if it has not been. -/
def add (x : Splitting) (meaningful : Bool) (t : Text) : Splitting :=
  { x with
    current := some (t.foldl (fun field c ↦ (c, meaningful) :: field) (x.current.getD []))
    ended := false }

/-- Adds one character of a value. -/
def step (separators : Text) (x : Splitting) (c : Char) : Splitting :=
  if !separators.contains c then x.add true [c]
  else if isShellBlank c ∨ c = '\n' then
    if x.current.isSome then { x.close with ended := true } else x
  else if x.current.isSome then { x.close with ended := false }
  else if x.ended then { x with ended := false }
  else { x with fields := [] :: x.fields }

/-- Adds a segment. -/
def take (separators : Text) (x : Splitting) : Segment → Splitting
  | .quoted t => x.add false t
  | .plain t => if t.isEmpty then x else x.add true t
  | .value t => t.foldl (step separators) x
  | .boundary => { x.close with ended := false }

end Splitting

/-- The fields of segments. -/
def fieldsOf (separators : Text) (segments : List Segment) : List Marked :=
  (segments.foldl (Splitting.take separators) ⟨[], none, false⟩).close.fields.reverse

/-- An output without the line feeds at its end. -/
def dropLineFeeds (t : Text) : Text := (t.reverse.dropWhile (· == '\n')).reverse

end CommandScript.Shell
