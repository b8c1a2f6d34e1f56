import CommandScript.Shell.CharacterSet

/-!
# Regular expressions

A regular expression is matched like a pattern: piece by piece, with the places in the line that the
pieces so far can lead to. The match that counts is the first one of a line, and the longest of
those with one start. What its groups have matched is found afterwards, by cutting the match so that
each part takes as much as it can. An expression that asks for the text of a group again is matched
by trying every way.

Two notations are read: the extended one, and the basic one in which a backslash gives the signs of
grouping, choice and repetition their meaning. Programs differ in what they make of signs that have
no meaning where they stand, and each has a spelling for that.
-/
namespace CommandScript.Shell

/-- A regular **expression**. -/
inductive Expression where
  /-- It matches nothing at all. -/
  | never
  /-- It matches the empty text. -/
  | empty
  /-- One given character. -/
  | exactly (c : Char)
  /-- Any character. -/
  | any
  /-- A character of a set. -/
  | member (s : CharacterSet)
  /-- The start of the line. -/
  | start
  /-- The end of the line. -/
  | finish
  /-- The start of the text or of a line within it. -/
  | lineStart
  /-- The end of the text or of a line within it. -/
  | lineFinish
  /-- A border of a word; whether before one, and whether after one. -/
  | edge (before after : Bool)
  /-- A place that is no border of a word. -/
  | inside
  /-- One expression after the other. -/
  | follow (first second : Expression)
  /-- One expression or the other. -/
  | either (first second : Expression)
  /-- An expression any number of times. -/
  | star (e : Expression)
  /-- An expression whose match is kept under a number. -/
  | group (n : Nat) (e : Expression)
  /-- What a group has matched. -/
  | again (n : Nat)
  deriving DecidableEq, Repr

namespace Expression

/-- One expression after the other, without those that match nothing or nothing much. -/
def thenFollow : Expression → Expression → Expression
  | .never, _ => .never
  | _, .never => .never
  | .empty, e => e
  | e, .empty => e
  | e, e' => .follow e e'

/-- Whether a character may be a part of a word. -/
def isWordCharacter (c : Char) : Bool := CharacterSet.isLetter c || c.isDigit || c = '_'

/-- Whether the characters before and after a place of a line are parts of words. -/
def around (t : Array Char) (i : Nat) : Bool × Bool :=
  (0 < i && ((t[i - 1]?).map isWordCharacter).getD false,
    ((t[i]?).map isWordCharacter).getD false)

/-- Whether a place of a line is what an expression without length asks for. -/
def isPlace (t : Array Char) (i : Nat) : Expression → Bool
  | .start => i = 0
  | .finish => i = t.size
  | .lineStart => i = 0 || t[i - 1]? = some '\n'
  | .lineFinish => i = t.size || t[i]? = some '\n'
  | .edge before after =>
    let (left, right) := around t i
    (before && !left && right) || (after && left && !right)
  | .inside =>
    let (left, right) := around t i
    left == right
  | _ => false

/-- Whether an expression is one for single characters that holds a character. -/
def holds (c : Char) : Expression → Bool
  | .exactly d => c = d
  | .any => !isStray c
  | .member s => !isStray c && s.holds c
  | _ => false

/-- Whether an expression is one for single characters. -/
def isUnit : Expression → Bool
  | .exactly _ => true
  | .any => true
  | .member _ => true
  | _ => false

/-- The places of a text in order, each once. -/
def merged : Nat → List Nat → List Nat → List Nat
  | 0, _, _ => []
  | _, [], ys => ys
  | _, xs, [] => xs
  | n + 1, x :: xs, y :: ys =>
    if x < y then x :: merged n xs (y :: ys)
    else if y < x then y :: merged n (x :: xs) ys
    else x :: merged n xs ys

/-- The places of two lists together. -/
def together (xs ys : List Nat) : List Nat := merged (xs.length + ys.length) xs ys

/-- The places that rounds of a step lead to; only new places are looked at in the next round. -/
def closure (step : List Nat → List Nat) : Nat → List Nat → List Nat → List Nat
  | 0, reached, _ => reached
  | n + 1, reached, latest =>
    match (step latest).filter fun i ↦ !reached.contains i with
    | [] => reached
    | new => closure step n (together reached new) new

/-- The places that characters of a kind lead to, any number of them. -/
def runs (t : Array Char) (e : Expression) (places : List Nat) : List Nat :=
  match places with
  | [] => []
  | first :: _ =>
    let (found, _, _) := (List.range (t.size + 1 - first)).foldl
      (fun ((found, within, left) : List Nat × Bool × List Nat) k ↦
        let i := first + k
        let goesOn := within && 0 < k && ((t[i - 1]?).map (holds · e)).getD false
        let isGiven := left.head? = some i
        let left := if isGiven then left.drop 1 else left
        if goesOn || isGiven then (i :: found, true, left) else (found, false, left))
      ([], false, places)
    found.reverse

/-- The places of a line that an expression leads to from given places. -/
def advance (t : Array Char) : Expression → List Nat → List Nat
  | .never, _ => []
  | .empty, places => places
  | .follow first second, places =>
    match advance t first places with
    | [] => []
    | reached => advance t second reached
  | .either first second, places => together (advance t first places) (advance t second places)
  | .star e, places =>
    if e.isUnit then runs t e places else closure (advance t e) (t.size + 1) places places
  | .group _ e, places => advance t e places
  | .again _, places => places
  | .exactly c, places => (places.filter fun i ↦ t[i]? = some c).map (· + 1)
  | .any, places => (places.filter fun i ↦ (t[i]?).any (holds · .any)).map (· + 1)
  | .member s, places => (places.filter fun i ↦ (t[i]?).any (holds · (.member s))).map (· + 1)
  | e, places => places.filter fun i ↦ isPlace t i e

/-! ### Groups -/

/-- A stretch of the characters of a line: what comes before it, and its end. -/
abbrev Span := Nat × Nat

/-- What groups have matched, the latest first. -/
abbrev Groups := List (Nat × Span)

/-- The greatest number of a group. -/
def groupCount : Expression → Nat
  | .follow e e' => max (groupCount e) (groupCount e')
  | .either e e' => max (groupCount e) (groupCount e')
  | .star e => groupCount e
  | .group n e => max n (groupCount e)
  | _ => 0

/-- Whether an expression asks for the text of a group again. -/
def refers : Expression → Bool
  | .follow e e' => refers e || refers e'
  | .either e e' => refers e || refers e'
  | .star e => refers e
  | .group _ e => refers e
  | .again _ => true
  | _ => false

/-- Whether an expression leads from one place to another. -/
def leads (t : Array Char) (e : Expression) (i j : Nat) : Bool := (advance t e [i]).contains j

/-- What the groups of an expression match in a stretch that it matches as a whole; each part takes
as much as it can, and the last round of a repetition counts. -/
def captures (t : Array Char) : Nat → Expression → Nat → Nat → Groups
  | 0, _, _, _ => []
  | n + 1, e, i, j =>
    match e with
    | .group k e => captures t n e i j ++ [(k, (i, j))]
    | .either e e' => if leads t e i j then captures t n e i j else captures t n e' i j
    | .follow e e' =>
      let cuts := ((advance t e [i]).filter (· ≤ j)).reverse
      match cuts.find? fun k ↦ leads t e' k j with
      | some k => captures t n e' k j ++ captures t n e i k
      | none => []
    | .star e =>
      let cuts := ((advance t e [i]).filter fun k ↦ i < k && k ≤ j).reverse
      match cuts.find? fun k ↦ leads t (.star e) k j with
      | some k => captures t n (.star e) k j ++ captures t n e i k
      | none => []
    | _ => []

/-- Every way to match an expression from a place on: where it leads, and what the groups have
matched then. -/
def ways (t : Array Char) : Nat → Expression → Nat × Groups → List (Nat × Groups)
  | 0, _, _ => []
  | n + 1, e, (i, g) =>
    match e with
    | .follow e e' => ((ways t n e (i, g)).flatMap (ways t n e')).eraseDups
    | .either e e' => ways t n e (i, g) ++ ways t n e' (i, g)
    | .star e =>
      (i, g) :: (((ways t n e (i, g)).filter fun w ↦ i < w.1).flatMap
        (ways t n (.star e))).eraseDups
    | .group k e => (ways t n e (i, g)).map fun w ↦ (w.1, (k, (i, w.1)) :: w.2)
    | .again k =>
      match g.lookup k with
      | none => []
      | some (a, b) =>
        if t.extract a b = t.extract i (i + (b - a)) ∧ i + (b - a) ≤ t.size then
          [(i + (b - a), g)]
        else []
    | e => (advance t e [i]).map fun j ↦ (j, g)

/-- How many expressions an expression consists of. -/
def size : Expression → Nat
  | .follow e e' => size e + size e' + 1
  | .either e e' => size e + size e' + 1
  | .star e => size e + 1
  | .group _ e => size e + 1
  | _ => 1

/-- The longest match that starts at a place, with what the groups have matched. -/
def longestAt (t : Array Char) (e : Expression) (i : Nat) : Option (Nat × Groups) :=
  let fuel := (t.size + 2) * (e.size + 1)
  if e.refers then
    (ways t fuel e (i, [])).foldl (fun best w ↦
      match best with
      | some (j, _) => if j < w.1 then some w else best
      | none => some w) none
  else
    (advance t e [i]).getLast?.map fun j ↦
      (j, if e.groupCount = 0 then [] else captures t fuel e i j)

/-- A **match** in a line: its stretch, and those of the groups. -/
structure Match where
  /-- The stretch of the match. -/
  span : Span
  /-- The stretches of the groups that have matched. -/
  groups : Groups
  deriving DecidableEq, Repr

/-- The first match from a place of a line on. -/
def findFrom (t : Array Char) (e : Expression) : Nat → Nat → Option Match
  | 0, _ => none
  | n + 1, i =>
    if t.size < i then none
    else match longestAt t e i with
      | some (j, g) => some ⟨(i, j), g⟩
      | none => findFrom t e n (i + 1)

/-- The first match from a place of a line on. -/
def find? (e : Expression) (t : Array Char) (i : Nat) : Option Match :=
  findFrom t e (t.size + 1 - i) i

/-- Whether an expression matches a part of a line. -/
def occurs (e : Expression) (line : Text) : Bool := (e.find? line.toArray 0).isSome

/-- The texts of a match and of all groups. -/
def Match.texts (m : Match) (t : Array Char) (count : Nat) : List Text :=
  let text (s : Span) : Text := (t.extract s.1 s.2).toList
  text m.span :: (List.range count).map fun k ↦ ((m.groups.lookup (k + 1)).map text).getD []

/-- The matches in a line one after the other, given the end of the one before. A match without
length is none directly after another one. -/
def matchesFrom (e : Expression) (t : Array Char) : Nat → Nat → Option Nat → List Match
  | 0, _, _ => []
  | n + 1, i, last =>
    match e.find? t i with
    | none => []
    | some m =>
      if m.span.1 = m.span.2 ∧ last = some m.span.1 then
        if t.size ≤ i then [] else matchesFrom e t n (i + 1) last
      else m :: matchesFrom e t n m.span.2 (some m.span.2)

/-- All matches in a line. -/
def everyMatch (e : Expression) (t : Array Char) : List Match :=
  matchesFrom e t (2 * t.size + 3) 0 none

/-- The expression for letters of either case. -/
def eitherCase : Expression → Expression
  | .exactly c => if otherCase c = c then .exactly c
    else .member { inverted := false, members := [.range c c], anyCase := true }
  | .member s => .member s.eitherCase
  | .follow e e' => .follow (eitherCase e) (eitherCase e')
  | .either e e' => .either (eitherCase e) (eitherCase e')
  | .star e => .star (eitherCase e)
  | .group n e => .group n (eitherCase e)
  | e => e

/-- The expression of a text that stands for itself. -/
def ofLiteral (t : Text) : Expression := t.foldr (fun c e ↦ thenFollow (.exactly c) e) .empty

/-! ### Reading -/

/-- The signs of both notations. -/
inductive Sign where
  /-- Something that matches by itself. -/
  | unit (e : Expression)
  /-- A repetition, with its least and greatest count. -/
  | repetition (least : Nat) (greatest : Option Nat)
  /-- The start of a group, with its number. -/
  | opening (n : Nat)
  /-- The end of a group. -/
  | closing
  /-- A choice. -/
  | bar
  deriving Repr

/-- Why a text spells no expression. -/
inductive Flaw where
  /-- A group is closed that has not been opened. -/
  | notOpened
  /-- A group is not closed. -/
  | notClosed
  /-- A set is not closed. -/
  | openSet
  /-- A set has no meaning. -/
  | senseless (f : CharacterSet.Flaw)
  /-- The name of a class stands in the place of a set. -/
  | bareClass
  /-- A repetition is not closed. -/
  | openRepetition
  /-- The counts of a repetition make no sense. -/
  | counts
  /-- The counts of a repetition are too large. -/
  | tooLarge
  /-- Nothing stands before a repetition. -/
  | nothingRepeated
  /-- Nothing stands where something is needed. -/
  | gap
  /-- A backslash stands at the end. -/
  | trailing
  /-- A group is asked for that is not there. -/
  | noGroup
  deriving DecidableEq, Repr

/-- The words for a flaw. -/
def Flaw.words : Flaw → String
  | .notOpened => "Unmatched ) or \\)"
  | .notClosed => "Unmatched ( or \\("
  | .openSet => "Unmatched [, [^, [:, [., or [="
  | .senseless .className => "Invalid character class name"
  | .senseless .rangeEnd => "Invalid range end"
  | .senseless .collation => "Invalid collation character"
  | .bareClass => "character class syntax is [[:space:]], not [:space:]"
  | .openRepetition => "Unmatched \\\x7b"
  | .counts => "Invalid content of \\\x7b\\\x7d"
  | .tooLarge => "Regular expression too big"
  | .nothingRepeated => "Invalid preceding regular expression"
  | .gap => "Invalid regular expression"
  | .trailing => "Trailing backslash"
  | .noGroup => "Invalid back reference"

/-- What becomes of a repetition with nothing before it. -/
inductive LoneRepetition where
  /-- It stands for itself. -/
  | stands
  /-- It is left out. -/
  | lacks
  /-- It is refused. -/
  | fails
  deriving DecidableEq, Repr

/-- How expressions are **written**. -/
structure Spelling where
  /-- Whether signs need a backslash for their meaning. -/
  isBasic : Bool
  /-- What becomes of a repetition with nothing before it. -/
  lone : LoneRepetition
  /-- Whether a brace that opens no repetition is refused. -/
  bracesRefused : Bool
  /-- Whether a star or a count behind a repetition is refused. -/
  onceOnly : Bool := false
  /-- Whether a group may not be closed that has not been opened. -/
  closesChecked : Bool
  /-- Whether the name of a class in the place of a set is refused. -/
  classesChecked : Bool := false
  /-- Whether a choice or group without anything in it is refused. -/
  gapsRefused : Bool := false
  /-- Whether a range that ends before it starts is refused. -/
  rangesChecked : Bool := true
  /-- Whether other sets without a meaning are refused. -/
  setsChecked : Bool := true
  /-- Whether a caret and a dollar sign stand for the borders of all lines in a text. -/
  byLines : Bool := false
  /-- How sets are written. -/
  sets : CharacterSet.Style := .plain

namespace Spelling

/-- The basic notation. -/
def basic : Spelling :=
  { isBasic := true, lone := .stands, bracesRefused := true, closesChecked := true
    rangesChecked := false }

/-- The extended notation. -/
def extended : Spelling :=
  { isBasic := false, lone := .fails, bracesRefused := true, closesChecked := false }

end Spelling

/-- The greatest count of a repetition. -/
def maxCount : Nat := 32767

/-- The repetition between braces, and what follows the closing one. -/
def bounds (n : Spelling) (t : Text) : Except Flaw (Option (Sign × Text)) :=
  let least := t.takeWhile Char.isDigit
  let skipBrace (t : Text) : Option Text := match t, n.isBasic with
    | '\\' :: '\x7d' :: rest, true => some rest
    | '\x7d' :: rest, false => some rest
    | _, _ => none
  let value (digits : Text) : Nat := digits.foldl (fun n c ↦ n * 10 + (c.toNat - '0'.toNat)) 0
  let (most, rest) : Option Nat × Text := match t.dropWhile Char.isDigit with
    | ',' :: rest =>
      let most := rest.takeWhile Char.isDigit
      (if most.isEmpty then none else some (value most), rest.dropWhile Char.isDigit)
    | rest => (some (value least), rest)
  match skipBrace rest with
  | some after =>
    if least.isEmpty ∧ t.head? != some ',' then
      if n.bracesRefused then .error .counts else .ok none
    else if maxCount < value least ∨ most.any (maxCount < ·) then .error .tooLarge
    else if most.any (· < value least) then .error .counts
    else .ok (some (.repetition (value least) most, after))
  | none =>
    if !n.bracesRefused then .ok none
    else if ((List.range t.length).any fun i ↦ (skipBrace (t.drop i)).isSome) then .error .counts
    else .error .openRepetition

/-- What a letter after a backslash stands for. -/
def escapedSign (n : Spelling) (c : Char) : Sign :=
  let set (inverted : Bool) (members : List CharacterSet.Member) : Sign :=
    .unit (.member { inverted, members })
  if n.sets = .program then .unit (.exactly (CharacterSet.programLetter c))
  else match c with
  | 'w' => set false [.named "word".toList]
  | 'W' => set true [.named "word".toList]
  | 's' => set false [.named "space".toList]
  | 'S' => set true [.named "space".toList]
  | 'b' => .unit (.edge true true)
  | '<' => .unit (.edge true false)
  | '>' => .unit (.edge false true)
  | 'B' => .unit .inside
  | '\x60' => .unit .start
  | '\x27' => .unit .finish
  | c => if '1' ≤ c ∧ c ≤ '9' then .unit (.again (c.toNat - '0'.toNat)) else .unit (.exactly c)

/-- A sign that opens or joins something, with what follows it. A repetition with nothing before it
is left to the spelling. -/
def operator (n : Spelling) (atStart : Bool) (c : Char) (rest : Text) :
    Except Flaw (Option (Option Sign × Text)) :=
  let repetition (sign : Sign) (rest : Text) : Except Flaw (Option (Option Sign × Text)) :=
    if !atStart then .ok (some (some sign, rest))
    else match n.lone with
      | .stands => .ok none
      | .lacks => .ok (some (none, rest))
      | .fails => .error .nothingRepeated
  match c with
  | '(' => .ok (some (some (.opening 0), rest))
  | ')' => .ok (some (some .closing, rest))
  | '|' => .ok (some (some .bar, rest))
  | '*' => repetition (.repetition 0 none) rest
  | '+' => repetition (.repetition 1 none) rest
  | '?' => repetition (.repetition 0 (some 1)) rest
  | '\x7b' =>
    if atStart then
      if n.isBasic ∧ n.onceOnly then .error .nothingRepeated
      else if n.isBasic then .ok none
      else if n.sets = .program then .ok none
      else repetition (.repetition 1 (some 1)) rest
    else match bounds n rest with
      | .ok (some (sign, after)) => .ok (some (some sign, after))
      | .ok none => .ok none
      | .error f => .error f
  | _ => .ok none

/-- Whether the text of a set is the name of a class between colons. -/
def isBareClass (t after : Text) : Bool :=
  let inner := (t.take (t.length - after.length)).dropLast
  1 < inner.length && inner.head? = some ':' && inner.getLast? = some ':'

/-- What stands before a sign. -/
inductive Before where
  /-- Nothing. -/
  | nothing
  /-- The start of the line and nothing else. -/
  | anchor
  /-- Something that can be repeated. -/
  | something
  /-- A repetition. -/
  | repeated
  deriving DecidableEq, Repr

/-- The signs of an expression. -/
def signs (n : Spelling) : Nat → Before → Text → Except Flaw (List Sign)
  | 0, _, _ => .ok []
  | _, _, [] => .ok []
  | fuel + 1, before, c :: rest =>
    let next (sign : Sign) (before : Before) (rest : Text) : Except Flaw (List Sign) :=
      (signs n fuel before rest).map (sign :: ·)
    let literal := next (.unit (.exactly c)) .something rest
    let operated (c : Char) (rest : Text) (otherwise : Except Flaw (List Sign)) :
        Except Flaw (List Sign) :=
      match operator n (before = .nothing || before = .anchor) c rest with
      | .error e => .error e
      | .ok (some (some (.repetition least most), after)) =>
        if n.onceOnly ∧ before = .repeated ∧ (c = '*' ∨ c = '\x7b') then .error .nothingRepeated
        else next (.repetition least most) .repeated after
      | .ok (some (some .closing, after)) => next .closing .something after
      | .ok (some (some sign, after)) => next sign .nothing after
      | .ok (some (none, after)) => signs n fuel before after
      | .ok none => otherwise
    if c = '\\' then
      match rest with
      | [] => if n.sets = .program then literal else .error .trailing
      | d :: after =>
        let escaped := next (escapedSign n d) .something after
        if n.isBasic ∧ d != '*' then operated d after escaped else escaped
    else if c = '[' then
      match CharacterSet.read? n.sets rest with
      | none => .error .openSet
      | some (s, after) =>
        match s.flaw?.filter fun f ↦ if f = .rangeEnd then n.rangesChecked else n.setsChecked with
        | some f => .error (.senseless f)
        | none =>
          if n.classesChecked ∧ isBareClass rest after then .error .bareClass
          else next (.unit (.member s)) .something after
    else if c = '.' then next (.unit .any) .something rest
    else if c = '^' ∧ (!n.isBasic ∨ before = .nothing) then
      next (.unit (if n.byLines then .lineStart else .start)) .anchor rest
    else if c = '$' ∧ (!n.isBasic ∨ rest.isEmpty ∨ rest.take 2 = "\\)".toList ∨
        rest.take 2 = "\\|".toList) then
      next (.unit (if n.byLines then .lineFinish else .finish)) .something rest
    else if c = '*' then operated c rest literal
    else if n.isBasic then literal
    else operated c rest literal

/-- Signs with their groups numbered from a number on. -/
def numberGroups : Nat → List Sign → List Sign
  | _, [] => []
  | n, .opening _ :: rest => .opening n :: numberGroups (n + 1) rest
  | n, sign :: rest => sign :: numberGroups n rest

/-- An expression a number of times in a row. -/
def times (e : Expression) : Nat → Expression
  | 0 => .empty
  | n + 1 => thenFollow e (times e n)

/-- An expression at most a number of times in a row. -/
def upTo (e : Expression) : Nat → Expression
  | 0 => .empty
  | n + 1 => .either (thenFollow e (upTo e n)) .empty

/-- An expression with a repetition. -/
def repeated (e : Expression) (least : Nat) : Option Nat → Expression
  | none => thenFollow (times e least) (.star e)
  | some most => thenFollow (times e least) (upTo e (most - least))

/-- The repetitions at the start of signs, put on an expression. -/
def applyRepetitions (e : Expression) : List Sign → Expression × List Sign
  | .repetition least greatest :: rest => applyRepetitions (repeated e least greatest) rest
  | rest => (e, rest)

mutual

/-- The expression that signs spell up to the end of their group, and what follows. -/
def ofSigns : Nat → List Sign → Expression × List Sign
  | 0, ss => (.empty, ss)
  | n + 1, ss =>
    match ofRow n ss with
    | (e, .bar :: rest) =>
      let (e', after) := ofSigns n rest
      (.either e e', after)
    | found => found

/-- The expression that signs spell up to a choice or the end of their group, and what follows. -/
def ofRow : Nat → List Sign → Expression × List Sign
  | 0, ss => (.empty, ss)
  | n + 1, ss =>
    let goOn (e : Expression) (ss : List Sign) : Expression × List Sign :=
      let (e, ss) := applyRepetitions e ss
      let (e', after) := ofRow n ss
      (thenFollow e e', after)
    match ss with
    | .unit e :: rest => goOn e rest
    | .opening i :: rest =>
      let (inner, after) := ofSigns n rest
      goOn (.group i inner) (after.drop 1)
    | .repetition _ _ :: rest => ofRow n rest
    | ss => (.empty, ss)

end

/-- Signs in which what closes no group stands for itself. -/
def withLoneClosings : Nat → List Sign → List Sign
  | _, [] => []
  | depth, .opening n :: rest => .opening n :: withLoneClosings (depth + 1) rest
  | 0, .closing :: rest => .unit (.exactly ')') :: withLoneClosings 0 rest
  | depth + 1, .closing :: rest => .closing :: withLoneClosings depth rest
  | depth, sign :: rest => sign :: withLoneClosings depth rest

/-- How deep in groups signs end, or nothing where a group is closed that has not been opened. -/
def balance (ss : List Sign) : Option Nat :=
  ss.foldl (fun depth s ↦ depth.bind fun d ↦ match s with
    | .opening _ => some (d + 1)
    | .closing => if d = 0 then none else some (d - 1)
    | _ => some d) (some 0)

/-- Whether a choice or a group has nothing in it, given whether something comes before. -/
def hasGap : Bool → List Sign → Bool
  | before, [] => !before
  | before, .bar :: rest => !before || hasGap false rest
  | before, .closing :: rest => !before || hasGap true rest
  | _, .opening _ :: rest => hasGap false rest
  | _, _ :: rest => hasGap true rest

/-- The expression that a text spells, or what is wrong with it. -/
def read (n : Spelling) (t : Text) : Except Flaw Expression :=
  match signs n (t.length + 1) .nothing t with
  | .error e => .error e
  | .ok ss =>
    let ss := numberGroups 1 (if n.closesChecked then ss else withLoneClosings 0 ss)
    match balance ss with
    | none => .error .notOpened
    | some 0 =>
      let e := (ofSigns (3 * ss.length + 3) ss).1
      let asks := ss.any fun s ↦ match s with
        | .unit (.again k) => e.groupCount < k
        | _ => false
      if asks then .error .noGroup
      else if n.gapsRefused ∧ !ss.isEmpty ∧ hasGap false ss then .error .gap
      else .ok e
    | some _ => .error .notClosed

end Expression

end CommandScript.Shell
