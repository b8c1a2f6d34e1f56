import CommandScript.Shell.Octets
import CommandScript.Text.UpperCase

/-!
# Character sets

Patterns and regular expressions name sets of characters between brackets: single characters,
ranges and classes, any of which an exclamation mark or a caret at the start turns around. What is
between the brackets may have no meaning; such sets hold less than they seem to, and regular
expressions refuse them.
-/
namespace CommandScript.Shell

/-! ### Letters -/

/-- The capital letter of a letter, where that is a single one. -/
def capitalOf (c : Char) : Char := match Text.upperChar c with
  | [d] => d
  | _ => c

/-- The small letter of a letter. -/
def smallOf (c : Char) : Char :=
  let n := c.toNat
  let candidates := [n + 32, n + 80, n + 1, n + 37, n + 38, n + 48]
  if n < 0x80 then c.toLower
  else match (candidates.map Char.ofNat).find? fun d ↦ capitalOf d = c ∧ d ≠ c with
    | some d => d
    | none => c

/-- A letter of the other case. -/
def otherCase (c : Char) : Char := if capitalOf c = c then smallOf c else capitalOf c

/-! ### Sets -/

/-- One **member** of a character set. -/
inductive CharacterSet.Member where
  /-- The characters from one to another. -/
  | range (first last : Char)
  /-- The characters of a class, by its name. -/
  | named (name : Text)
  /-- A name for a character that is not known. -/
  | unknown
  deriving DecidableEq, Repr

/-- How sets are **written**. -/
inductive CharacterSet.Style where
  /-- In patterns, a backslash takes the meaning of the next character, and an exclamation mark
  turns a set around. -/
  | pattern
  /-- In expressions, a backslash stands for itself. -/
  | plain
  /-- In programs for lines, a backslash opens the escapes of texts. -/
  | program
  deriving DecidableEq, Repr

/-- Why a set has no meaning. -/
inductive CharacterSet.Flaw where
  /-- There is no class of a name. -/
  | className
  /-- A range ends before it starts. -/
  | rangeEnd
  /-- There is no character of a name. -/
  | collation
  deriving DecidableEq, Repr

/-- A **character set** between brackets. -/
structure CharacterSet where
  /-- Whether the set holds what no member holds. -/
  inverted : Bool
  /-- The members. -/
  members : List CharacterSet.Member
  /-- Whether letters of either case are alike. -/
  anyCase : Bool := false
  deriving DecidableEq, Repr

namespace CharacterSet

/-- Whether a character marks or writes something and is neither letter nor digit. -/
def isPunctuation (c : Char) : Bool := '!' ≤ c && c ≤ '~' && !c.isAlphanum

/-- Whether a character beyond ASCII is a letter of one of the common scripts. -/
def isWideLetter (c : Char) : Bool :=
  let n := c.toNat
  n = 0xAA || n = 0xB5 || n = 0xBA || (0xC0 ≤ n && n ≤ 0x2AF && n != 0xD7 && n != 0xF7) ||
    (0x370 ≤ n && n ≤ 0x52F && n != 0x37E && n != 0x387) || (0x5D0 ≤ n && n ≤ 0x5EA) ||
    (0x620 ≤ n && n ≤ 0x64A) || (0x3041 ≤ n && n ≤ 0x30FA) || (0x4E00 ≤ n && n ≤ 0x9FFF) ||
    (0xAC00 ≤ n && n ≤ 0xD7A3)

/-- Whether a character is a letter. -/
def isLetter (c : Char) : Bool := c.isAlpha || isWideLetter c

/-- The classes by name. -/
def classes : List (String × (Char → Bool)) := [
  ("alpha", isLetter), ("digit", Char.isDigit), ("alnum", fun c ↦ isLetter c || c.isDigit),
  ("upper", fun c ↦ smallOf c != c), ("lower", fun c ↦ capitalOf c != c),
  ("space", isSpace), ("blank", isShellBlank),
  ("punct", fun c ↦ isPunctuation c || (0xA1 ≤ c.toNat && c.toNat < strayMark && !isLetter c)),
  ("xdigit", fun c ↦ c.isDigit || "abcdefABCDEF".toList.contains c),
  ("cntrl", fun c ↦ c.toNat < 32 || (127 ≤ c.toNat && c.toNat < 0xA0)),
  ("print", fun c ↦ 32 ≤ c.toNat && c.toNat != 127 && c.toNat < strayMark),
  ("graph", fun c ↦ 32 < c.toNat && c.toNat != 127 && c.toNat < strayMark),
  ("word", fun c ↦ isLetter c || c.isDigit || c = '_')]

/-- Whether a member holds a character. -/
def Member.holds (c : Char) : Member → Bool
  | .range first last => first ≤ c && c ≤ last
  | .named name => ((classes.lookup (String.ofList name)).map (· c)).getD false
  | .unknown => false

/-- Whether a set holds a character. -/
def holds (s : CharacterSet) (c : Char) : Bool :=
  let isMember (c : Char) : Bool := s.members.any (·.holds c)
  (isMember c || (s.anyCase && (isMember (capitalOf c) || isMember (smallOf c)))) != s.inverted

/-- What stands in brackets between two signs of one kind, and what follows them. -/
def enclosed? (sign : Char) (t : Text) : Option (Text × Text) :=
  match t with
  | [] => none
  | first :: rest =>
    let inner := first :: rest.takeWhile (· != sign)
    match rest.dropWhile (· != sign) with
    | _ :: ']' :: after => some (inner, after)
    | _ => none

/-- What a letter after a backslash stands for in a program for lines. -/
def programLetter (c : Char) : Char :=
  match c with
  | 'n' => '\n'
  | 't' => '\t'
  | 'r' => '\r'
  | 'f' => '\x0C'
  | 'v' => '\x0B'
  | 'a' => '\x07'
  | 'b' => '\x08'
  | c => c

/-- The first member of a set that a text spells, as a single character or as another member, and
what follows it. -/
def member? (style : Style) : Text → Option (Char ⊕ Member) × Text
  | [] => (none, [])
  | '[' :: sign :: rest =>
    match if sign = ':' ∨ sign = '=' ∨ sign = '.' then enclosed? sign rest else none with
    | some (inner, after) =>
      (some (if sign = ':' then .inr (.named inner) else match inner with
        | [c] => .inl c
        | _ => .inr .unknown), after)
    | none => (some (.inl '['), sign :: rest)
  | '\\' :: c :: rest => match style with
    | .pattern => (some (.inl c), rest)
    | .plain => (some (.inl '\\'), c :: rest)
    | .program => (some (.inl (programLetter c)), rest)
  | c :: rest => (some (.inl c), rest)

/-- The members up to the closing bracket, and what follows it. A bracket that is the first member
closes nothing. -/
def membersFrom (style : Style) (start : Bool) : Nat → Text → Option (List Member × Text)
  | 0, _ => none
  | n + 1, t =>
    if t.head? = some ']' ∧ !start then some ([], t.drop 1)
    else
      let more (m : Member) (rest : Text) : Option (List Member × Text) :=
        (membersFrom style false n rest).map fun (ms, after) ↦ (m :: ms, after)
      match member? style t with
      | (none, _) => none
      | (some (.inr m), rest) => more m rest
      | (some (.inl first), rest) =>
        match rest with
        | '-' :: last :: _ =>
          if last = ']' then more (.range first first) rest
          else match member? style (rest.drop 1) with
            | (some (.inl last), after) => more (.range first last) after
            | _ => more (.range first first) rest
        | rest => more (.range first first) rest

/-- The set that a text after an opening bracket spells, and what follows the closing one. -/
def read? (style : Style) (t : Text) : Option (CharacterSet × Text) :=
  match t with
  | [] => none
  | c :: rest =>
    let inverted := c = '!' && style = .pattern || c = '^'
    (membersFrom style true (t.length + 1) (if inverted then rest else t)).map
      fun (members, after) ↦ ({ inverted, members }, after)

/-- Why a set has no meaning, if it has none. -/
def flaw? (s : CharacterSet) : Option Flaw :=
  s.members.findSome? fun m ↦ match m with
    | .range first last => if last < first then some .rangeEnd else none
    | .named name =>
      if name != "word".toList ∧ (classes.lookup (String.ofList name)).isSome then none
      else some .className
    | .unknown => some .collation

/-- The set with the letters of the other case as well. -/
def eitherCase (s : CharacterSet) : CharacterSet := { s with anyCase := true }

end CharacterSet

end CommandScript.Shell
