import CommandScript.Shell.Escape
import CommandScript.Shell.Number

/-!
# Variables of a shell

A **variable** holds a text, a list whose members have numbers, or a map whose members have texts as
their keys, and has attributes that say what becomes of the values that are assigned to it. Where a
value is asked for, a list or a map gives its member zero. Variables stand in **scopes**, of which
the innermost is looked at first.
-/
namespace CommandScript.Shell

/-- The **attributes** of a variable. -/
structure Attributes where
  /-- Whether programs see the variable. -/
  exported : Bool := false
  /-- Whether the variable keeps its value. -/
  fixed : Bool := false
  /-- Whether values are computed as arithmetic expressions. -/
  computed : Bool := false
  /-- Whether values get small letters. -/
  lower : Bool := false
  /-- Whether values get capital letters. -/
  upper : Bool := false
  /-- Whether values get one capital letter at the start. -/
  capital : Bool := false
  /-- Whether the value is the name of the variable that is meant. -/
  reference : Bool := false
  /-- Whether the variable is traced. -/
  traced : Bool := false
  deriving DecidableEq, Repr

/-- What a variable holds. -/
inductive Content where
  /-- A text. -/
  | text (t : Text)
  /-- A list, in the order of its numbers. -/
  | list (members : List (Nat × Text))
  /-- A map, the latest member first. -/
  | map (members : List (Text × Text))
  deriving DecidableEq, Repr

/-- A **variable**. -/
structure Variable where
  /-- What it holds. -/
  content : Content
  /-- Whether anything has been assigned to it. -/
  assigned : Bool := true
  /-- Its attributes. -/
  attributes : Attributes := {}
  deriving DecidableEq, Repr

/-- What a scope is for. -/
inductive ScopeKind where
  /-- The whole shell. -/
  | whole
  /-- A function under way. -/
  | function
  /-- The time of one command. -/
  | command
  deriving DecidableEq, Repr

/-- A **scope** of variables. -/
structure Scope where
  /-- What the scope is for. -/
  kind : ScopeKind
  /-- The variables by name. -/
  bindings : List (Text × Variable)
  deriving DecidableEq, Repr

/-- The key of a member of a list or a map. -/
inductive Key where
  /-- The number of a member of a list. -/
  | number (n : Nat)
  /-- The text of a member of a map. -/
  | text (t : Text)
  deriving DecidableEq, Repr

/-- The hash of a key: an offset basis that is multiplied by a prime and joined with one octet after
the other. -/
def keyHash (key : Text) : UInt32 :=
  key.foldl (fun h c ↦ (h * 16777619) ^^^ c.toNat.toUInt32) 2166136261

/-- The place of a key among the buckets of a map. -/
def keyBucket (key : Text) : Nat := (keyHash key).toNat % 1024

/-- The place of a name in a table of a size, in a shell of the standard. -/
def standardPlace (size : Nat) (name : Text) : Nat :=
  (((name.head?.map Char.toNat).getD 0 * 16 + sumOf (name.map Char.toNat)) % 0x8000) % size

/-- How many shells are around one after a change, given what is known of that. Too many are told as
one. -/
def shellLevel (known : Text) (change : Int) : Nat :=
  let level := ((wholeNumber? known).getD 0 + change).toNat
  if level < 1000 then level else 1

namespace Content

/-- The members of a map in the order in which they are listed: bucket by bucket, the latest member
of a bucket first. -/
def listed (members : List (Text × Text)) : List (Text × Text) :=
  members.mergeSort fun a b ↦ keyBucket a.1 ≤ keyBucket b.1

/-- The members with their keys as texts, in the order in which they are listed. A text is its own
member zero. -/
def members : Content → List (Text × Text)
  | .text t => [(['0'], t)]
  | .list ms => ms.map fun m ↦ (shown m.1, m.2)
  | .map ms => listed ms

/-- The members of a content as those of a list. -/
def asList : Content → List (Nat × Text)
  | .text t => [(0, t)]
  | .list ms => ms
  | .map _ => []

/-- The member of a key. -/
def member? : Content → Key → Option Text
  | .text t, .number 0 => some t
  | .list ms, .number n => ms.lookup n
  | .map ms, .text key => ms.lookup key
  | .map ms, .number n => ms.lookup (shown n)
  | _, _ => none

/-- A list with a member set. -/
def insert (n : Nat) (value : Text) : List (Nat × Text) → List (Nat × Text)
  | [] => [(n, value)]
  | (m, old) :: rest =>
    if m < n then (m, old) :: insert n value rest
    else if m = n then (n, value) :: rest
    else (n, value) :: (m, old) :: rest

/-- The content with a member set. A text becomes a list for a member other than zero. -/
def set : Content → Key → Text → Content
  | .text _, .number 0, value => .text value
  | .map ms, .text key, value =>
    .map (if (ms.lookup key).isSome then ms.map fun m ↦ if m.1 = key then (key, value) else m
      else (key, value) :: ms)
  | .map ms, .number n, value => .map ((shown n, value) :: ms.filter fun m ↦ m.1 != shown n)
  | content, .number n, value => .list (insert n value content.asList)
  | content, .text _, _ => content

/-- The content without a member. -/
def drop : Content → Key → Content
  | .list ms, .number n => .list (ms.filter fun m ↦ m.1 != n)
  | .map ms, .text key => .map (ms.filter fun m ↦ m.1 != key)
  | content, _ => content

end Content

namespace Variable

/-- The value of a variable where a text is asked for. -/
def value? (v : Variable) : Option Text :=
  if v.assigned then v.content.member? (match v.content with
    | .map _ => .text ['0']
    | _ => .number 0) else none

/-- Whether a variable is a list or a map. -/
def isArray (v : Variable) : Bool := match v.content with
  | .text _ => false
  | _ => true

/-- Whether a variable is a map. -/
def isMap (v : Variable) : Bool := match v.content with
  | .map _ => true
  | _ => false

/-- The members of a variable that has been assigned. -/
def members (v : Variable) : List (Text × Text) := if v.assigned then v.content.members else []

/-- The letters of the attributes of a variable. -/
def letters (v : Variable) : Text :=
  let a := v.attributes
  let pick (on : Bool) (c : Char) : Text := if on then [c] else []
  (match v.content with
    | .text _ => []
    | .list _ => ['a']
    | .map _ => ['A']) ++ pick a.capital 'c' ++ pick a.computed 'i' ++ pick a.lower 'l' ++
      pick a.reference 'n' ++ pick a.fixed 'r' ++ pick a.traced 't' ++ pick a.upper 'u' ++
      pick a.exported 'x'

/-- A key of a map as a list of variables shows it. -/
def shownKey (key : Text) : Text :=
  if needsEscapes key then dollarQuoted key
  else if key.isEmpty ∨ key.any (shellSigns.contains ·) ∨ key = ['@'] then doubleQuoted key else key

/-- The members of a variable as a list of variables shows them. -/
def shownMembers (v : Variable) : Text :=
  let show1 (m : Text × Text) : Text := '[' :: shownKey m.1 ++ "]=".toList ++ doubleQuoted m.2
  let all := [' '].intercalate (v.members.map show1)
  '(' :: all ++ (if v.isMap ∧ !v.members.isEmpty then " )".toList else [')'])

/-- The command that declares a variable again, under the letters of some attributes. -/
def declaration (command : Text) (name : Text) (v : Variable) : Text :=
  let letters := v.letters
  let value := if !v.assigned then []
    else if v.isArray then '=' :: v.shownMembers
    else '=' :: doubleQuoted (v.value?.getD [])
  command ++ (if letters.isEmpty then " -- ".toList else " -".toList ++ letters ++ [' ']) ++ name ++
    value

end Variable

end CommandScript.Shell
