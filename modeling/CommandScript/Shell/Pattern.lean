import CommandScript.Shell.CharacterSet

/-!
# Patterns

A **pattern** is matched against a text: a star stands for any characters, a question mark for one,
brackets for one of a set, and every other character for itself. Extended patterns add choices
between parentheses that may lack, repeat or be shut out. In a pattern that comes out of an expanded
word, characters that have been quoted stand for themselves.

Matching goes through a pattern piece by piece and keeps the places in the text that the pieces so
far can lead to, so that it takes time in proportion to the two lengths.
-/
namespace CommandScript.Shell

/-- A text each of whose characters may or may not have a meaning of its own in a pattern. -/
abbrev Marked := List (Char × Bool)

namespace Marked

/-- A text all of whose characters are marked alike. -/
def ofText (meaningful : Bool) (t : Text) : Marked := t.map fun c ↦ (c, meaningful)

/-- The text without its marks. -/
def text (m : Marked) : Text := m.map Prod.fst

/-- The same text with the octets of each character put together. -/
def wide (m : Marked) : Marked :=
  if m.all (isAscii ·.1) then m
  else match m with
    | [] => []
    | (_, first) :: _ =>
      let whole := Shell.wide m.text
      if whole.length = m.length then m
      else if m.all fun c ↦ c.2 = first then ofText first whole
      else
        (whole.foldl (fun ((found, rest) : Marked × Marked) c ↦
          let size := (narrow [c]).length
          ((c, (rest.head?.map Prod.snd).getD true) :: found, rest.drop size)) ([], m)).1.reverse

/-- The parts of a text between separators. -/
def splitAt (separator : Char) : Marked → List Marked
  | [] => [[]]
  | c :: rest =>
    if c.1 = separator then [] :: splitAt separator rest
    else match splitAt separator rest with
      | [] => [[c]]
      | part :: parts => (c :: part) :: parts

end Marked

/-- A **pattern**. -/
inductive Pattern where
  /-- It matches the empty text. -/
  | empty
  /-- It matches nothing. -/
  | never
  /-- One given character. -/
  | exactly (c : Char)
  /-- Any one character. -/
  | one
  /-- Any characters, or none. -/
  | many
  /-- A character of a set. -/
  | member (s : CharacterSet)
  /-- One pattern after another. -/
  | follow (first rest : Pattern)
  /-- One of two patterns. -/
  | either (left right : Pattern)
  /-- A pattern any number of times, or never. -/
  | repeated (p : Pattern)
  /-- Any text that a pattern does not match. -/
  | unless (p : Pattern)
  deriving Repr

namespace Pattern

/-- The places of a text in order, each once. -/
def merged : Nat → List Nat → List Nat → List Nat
  | 0, _, _ => []
  | _, [], ys => ys
  | _, xs, [] => xs
  | n + 1, x :: xs, y :: ys =>
    if x < y then x :: merged n xs (y :: ys)
    else if y < x then y :: merged n (x :: xs) ys
    else x :: merged n xs ys

/-- The places of two lists together. -/
def together (xs ys : List Nat) : List Nat := merged (xs.length + ys.length) xs ys

/-- The places that rounds of a step lead to, from places that have been reached. -/
def closure (step : List Nat → List Nat) : Nat → List Nat → List Nat
  | 0, reached => reached
  | n + 1, reached =>
    let further := together reached (step reached)
    if further.length = reached.length then reached else closure step n further

/-- The places of a text that a pattern leads to from given places. -/
def advance (t : Array Char) : Pattern → List Nat → List Nat
  | .empty, places => places
  | .never, _ => []
  | .exactly c, places => (places.filter fun i ↦ t[i]? = some c).map (· + 1)
  | .one, places => (places.filter (· < t.size)).map (· + 1)
  | .many, places =>
    match places with
    | [] => []
    | first :: _ => (List.range (t.size + 1 - first)).map (· + first)
  | .member s, places =>
    (places.filter fun i ↦ ((t[i]?).map s.holds).getD false).map (· + 1)
  | .follow first rest, places =>
    match advance t first places with
    | [] => []
    | reached => advance t rest reached
  | .either left right, places => together (advance t left places) (advance t right places)
  | .repeated p, places => closure (advance t p) (t.size + 1) places
  | .unless p, places =>
    (places.map fun i ↦
      let shut := advance t p [i]
      (List.range (t.size + 1)).filter fun j ↦ i ≤ j && !shut.contains j).foldl together []

/-- The lengths of the starts of a text that a pattern matches, shortest first. -/
def startLengths (p : Pattern) (t : Text) : List Nat := p.advance t.toArray [0]

/-- Whether a pattern matches the whole of a text. -/
def fits (p : Pattern) (t : Text) : Bool := (p.startLengths t).getLast? == some t.length

/-- The lengths of what is left when an end that a pattern matches is taken from a text, shortest
end first. -/
def endLengths (p : Pattern) (t : Text) : List Nat :=
  let a := t.toArray
  ((List.range (t.length + 1)).filter fun n ↦
    (p.advance a [n]).getLast? == some t.length).reverse

/-- The pattern for letters of either case. -/
def eitherCase : Pattern → Pattern
  | .exactly c => if otherCase c = c then .exactly c
    else .member { inverted := false, members := [.range c c], anyCase := true }
  | .member s => .member s.eitherCase
  | .follow p q => .follow (eitherCase p) (eitherCase q)
  | .either p q => .either (eitherCase p) (eitherCase q)
  | .repeated p => .repeated (eitherCase p)
  | .unless p => .unless (eitherCase p)
  | p => p

/-! ### Reading -/

/-- The parts of a choice after its opening parenthesis, and what follows the closing one. -/
def choiceParts : Nat → Nat → Marked → Option (List Marked × Marked)
  | 0, _, _ => none
  | _, _, [] => none
  | n + 1, depth, (c, meaningful) :: rest =>
    let keep (depth : Nat) (taken : Marked) (rest : Marked) : Option (List Marked × Marked) :=
      (choiceParts n depth rest).map fun (parts, after) ↦
        (match parts with
          | [] => [taken]
          | part :: parts => (taken ++ part) :: parts, after)
    if !meaningful then keep depth [(c, meaningful)] rest
    else if c = '\\' then keep depth ((c, true) :: rest.take 1) (rest.drop 1)
    else if c = '(' then keep (depth + 1) [(c, true)] rest
    else if c = ')' then
      match depth with
      | 0 => some ([[]], rest)
      | depth + 1 => keep depth [(c, true)] rest
    else if c = '|' ∧ depth = 0 then
      (choiceParts n depth rest).map fun (parts, after) ↦ ([] :: parts, after)
    else keep depth [(c, true)] rest

/-- The choice that follows a sign of an extended pattern, and what follows it. -/
def choice? (extended : Bool) (sign : Char) (rest : Marked) : Option (List Marked × Marked) :=
  match rest with
  | ('(', true) :: inner =>
    if extended && "?*+@!".toList.contains sign then choiceParts (rest.length + 1) 0 inner
    else none
  | _ => none

/-- The pattern that a marked text spells. -/
def ofMarked (extended : Bool) : Nat → Marked → Pattern
  | 0, _ => .empty
  | _, [] => .empty
  | n + 1, (c, meaningful) :: rest =>
    let plain (_ : Unit) : Pattern := .follow (.exactly c) (ofMarked extended n rest)
    if !meaningful then plain ()
    else match choice? extended c rest with
      | some (parts, after) =>
        let inner := parts.foldr (fun part p ↦ .either (ofMarked extended n part) p) Pattern.never
        let whole := match c with
          | '?' => .either .empty inner
          | '*' => .repeated inner
          | '+' => .follow inner (.repeated inner)
          | '!' => .unless inner
          | _ => inner
        .follow whole (ofMarked extended n after)
      | none =>
        match c with
        | '*' =>
          if rest.head? = some ('*', true) then ofMarked extended n rest
          else .follow .many (ofMarked extended n rest)
        | '?' => .follow .one (ofMarked extended n rest)
        | '\\' =>
          match rest with
          | (d, _) :: rest => .follow (.exactly d) (ofMarked extended n rest)
          | [] => .exactly c
        | '[' =>
          let spelling := rest.flatMap fun (c, meaningful) ↦
            if meaningful || !("]-!^[\\".toList.contains c) then [c] else ['\\', c]
          match CharacterSet.read? .pattern spelling with
          | some (s, after) =>
            let size := spelling.length - after.length
            let used := rest.scanl (fun k (c, meaningful) ↦
              k + if meaningful || !("]-!^[\\".toList.contains c) then 1 else 2) 0
            .follow (.member s) (ofMarked extended n (rest.drop (used.idxOf size)))
          | none => plain ()
        | _ => plain ()

/-- The pattern of a marked text. -/
def of (extended : Bool) (m : Marked) : Pattern :=
  let m := m.wide
  ofMarked extended (m.length + 1) m

end Pattern

/-- Whether a marked text stands for more than its own characters. -/
def Marked.isOpen (extended : Bool) : Marked → Bool
  | [] => false
  | ('\\', true) :: (_, true) :: rest => Marked.isOpen extended rest
  | (c, meaningful) :: rest =>
    (meaningful && (c = '*' || c = '?' || (c = '[' && rest.contains (']', true)) ||
      (Pattern.choice? extended c rest).isSome)) || Marked.isOpen extended rest

end CommandScript.Shell
