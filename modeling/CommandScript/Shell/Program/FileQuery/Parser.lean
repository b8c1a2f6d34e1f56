import CommandScript.Shell.Escape
import CommandScript.Shell.Program.FileQuery.Tree
import CommandScript.Shell.Program.Tree

/-!
# Reading queries of files

The arguments of a search are options that say how links are followed, then the paths where it
starts, and then the words of a query. Words of a query are tests, actions and signs; two that stand
side by side are both to hold. A query without an action writes the paths of the files for which it
holds.
-/
namespace CommandScript.Shell

namespace FileQuery

/-- A word of a query, as it has been read. -/
inductive Item where
  /-- A test or an action. -/
  | single (q : FileQuery)
  /-- The sign that turns an answer. -/
  | negation
  /-- A sign between two queries, by how tightly it binds. -/
  | joint (level : Nat)
  /-- An opening bracket. -/
  | opening
  /-- A closing bracket. -/
  | closing
  deriving Repr

/-- How links are followed. -/
inductive LinkRule where
  /-- Never. -/
  | never
  /-- Where the search starts. -/
  | atStart
  /-- Always. -/
  | always
  deriving DecidableEq, Repr

/-- A **search**: where it starts, how deep it goes, and its query. -/
structure Search where
  /-- How links are followed. -/
  links : LinkRule := .never
  /-- The paths where it starts. -/
  starts : List Text := []
  /-- The greatest depth of files that are looked at. -/
  maxDepth : Option Nat := none
  /-- The least depth of files that the query is put to. -/
  minDepth : Nat := 0
  /-- Whether a directory comes after what is in it. -/
  inside : Bool := false
  /-- Whether the query is to write the paths of the files for which it holds. -/
  writes : Bool := true
  /-- The number of commands that are run for many files at once. -/
  gatherings : Nat := 0
  /-- The files that are written, the latest first. -/
  places : List Text := []
  /-- What is to be said before the search, the latest first. -/
  told : List Text := []

/-- Where reading a query stands. -/
structure Reading where
  /-- What is known of the search. -/
  search : Search
  /-- The words that are left. -/
  rest : List Text
  /-- How expressions are written: whether signs need a backslash, or nothing for the notation in
  which only repetitions need none. -/
  spelling : Option Bool
  /-- The word of the last test or action. -/
  last : Text
  /-- The files. -/
  files : FileStore

/-- A reader of a query, which may give up with a message. -/
abbrev Reader := StateT Reading (Except Text)

/-- Gives up with a message. -/
def refuse {α : Type} (message : Text) : Reader α := throw message

/-! ### Arguments of tests -/

/-- A text as messages of searches quote it. -/
def marked (t : Text) : Text := '\x60' :: t ++ [Text.singleQuote]

/-- The argument of a word. -/
def argument (word : Text) : Reader Text := do
  let r ← get
  match r.rest with
  | t :: rest =>
    set { r with rest }
    return t
  | [] => refuse ("missing argument to ".toList ++ marked word)

/-- Gives up because of the argument of a word. -/
def refuseArgument {α : Type} (word t : Text) : Reader α :=
  refuse ("invalid argument ".toList ++ marked t ++ " to ".toList ++ marked word)

/-- The bound that a text with a sign or without one spells. A part of a whole is left out. -/
def bound? (t : Text) : Option Bound :=
  let (order, digits) := match t with
    | '+' :: rest => (Ordering.gt, rest)
    | '-' :: rest => (Ordering.lt, rest)
    | t => (Ordering.eq, t)
  let whole := digits.takeWhile Char.isDigit
  let isRight := match digits.drop whole.length with
    | [] => !whole.isEmpty
    | '.' :: part => (!whole.isEmpty || !part.isEmpty) && part.all Char.isDigit
    | _ => false
  if isRight then some ⟨order, Text.digitsValue whole⟩ else none

/-- The bound that the argument of a word spells. -/
def boundArgument (word : Text) : Reader Bound := do
  let t ← argument word
  match bound? t with
  | some b => return b
  | none => refuseArgument word t

/-- The units of sizes by their letters. -/
def sizeUnits : List (Char × Nat) := [
  ('c', 1), ('w', 2), ('b', 512), ('k', 1024), ('M', Nat.pow 1024 2), ('G', Nat.pow 1024 3)]

/-- The test of a size. -/
def sizeTest (word : Text) : Reader Test := do
  let t ← argument word
  match t.getLast? with
  | none => refuse ("invalid null argument to ".toList ++ word)
  | some c =>
    let found := if c.isDigit then some (512, t)
      else (sizeUnits.lookup c).map fun unit ↦ (unit, t.dropLast)
    match found with
    | none => refuse ("invalid ".toList ++ word ++ " type ".toList ++ marked [c])
    | some (unit, digits) =>
      match bound? digits with
      | some b => return .size unit b
      | none => refuse ("Invalid argument ".toList ++ marked t ++ " to ".toList ++ word)

/-- The letters of kinds of files. -/
def kindLetters : Text := "bcdpflsD".toList

/-- The kinds that the argument of a word lists. -/
def kinds (word : Text) : Text → Reader (List Char)
  | [] => refuse ("Arguments to ".toList ++ word ++ " should contain at least one letter".toList)
  | c :: rest => do
    if !kindLetters.contains c then
      refuse ("Unknown argument to ".toList ++ word ++ ": ".toList ++ [c])
    match rest with
    | [] => return [c]
    | [','] => refuse ("Last file type in list argument to ".toList ++ word ++
        " is missing, i.e., list is ending on: ','".toList)
    | ',' :: others =>
      let more ← kinds word others
      if more.contains c then
        refuse
          ("Duplicate file type '".toList ++ [c] ++ "' in the argument list to ".toList ++ word)
      return c :: more
    | _ => refuse ("Must separate multiple arguments to ".toList ++ word ++ " using: ','".toList)

/-- The test of permissions. -/
def modeTest (word : Text) : Reader Test := do
  let t ← argument word
  let (m, change) := match t with
    | '-' :: rest => (ModeMatch.all, rest)
    | '/' :: rest => (ModeMatch.any, rest)
    | t => (ModeMatch.same, t)
  match if change.isEmpty then none else changeMode? 0 false change 0 with
  | some bits => return .mode m bits
  | none => refuse ("invalid mode ".toList ++ curled t)

/-- The node that the argument of a word names. -/
def nodeArgument (word : Text) : Reader (Nat × FileStore.Node) := do
  let t ← argument word
  let r ← get
  let found := if t.isEmpty then .error .missing
    else r.files.findNumber (pathOf t) (r.search.links != .never)
  match found with
  | .error f => refuse (curled t ++ ": ".toList ++ f.words)
  | .ok n =>
    match r.files.node? n with
    | some node => return (n, node)
    | none => refuse (curled t ++ ": ".toList ++ FileFault.missing.words)

/-- The number of the user or group that the argument of a word names; the first one is the only one
that there is. -/
def ownerTest (word : Text) (words : String) : Reader Test := do
  let t ← argument word
  if t = "root".toList then return .owner ⟨.eq, 0⟩
  else match naturalNumber? t with
    | some n => return .owner ⟨.eq, n⟩
    | none => refuse (curled t ++ words.toList)

/-- An expression in which signs of repetition stand for themselves behind a backslash, with that
turned around. -/
def turnRepetitions : Text → Text
  | [] => []
  | '\\' :: c :: rest =>
    if c = '+' ∨ c = '?' then c :: turnRepetitions rest else '\\' :: c :: turnRepetitions rest
  | c :: rest =>
    if c = '+' ∨ c = '?' then '\\' :: c :: turnRepetitions rest else c :: turnRepetitions rest

/-- The test of a path by an expression. -/
def expressionTest (word : Text) (anyCase : Bool) : Reader Test := do
  let t ← argument word
  let found := match (← get).spelling with
    | some true => Expression.read .basic (wide t)
    | some false => Expression.read .extended (wide t)
    | none => Expression.read .basic (turnRepetitions (wide t))
  match found with
  | .ok e => return .matches (if anyCase then e.eitherCase else e)
  | .error _ => refuse ("failed to compile regular expression '".toList ++ t ++
      "': Invalid regular expression".toList)

/-- The names of the ways in which expressions are written. -/
def spellings : List (String × Option Bool) := [
  ("findutils-default", none), ("ed", some true), ("emacs", none), ("gnu-awk", some false),
  ("grep", some true), ("posix-awk", some false), ("awk", some false), ("posix-basic", some true),
  ("posix-egrep", some false), ("egrep", some false), ("posix-extended", some false),
  ("posix-minimal-basic", some true), ("sed", some true)]

/-- Chooses how expressions are written from now on. -/
def chooseSpelling (word : Text) : Reader Unit := do
  let t ← argument word
  match spellings.lookup (String.ofList t) with
  | some spelling => modify fun r ↦ { r with spelling }
  | none => refuse ("Unknown regular expression type ".toList ++ curled t ++
      "; valid types are ".toList ++
      ", ".toList.intercalate (spellings.map fun e ↦ curled e.1.toList) ++ ['.'])

/-- The pattern that the argument of a word is. -/
def patternTest (word : Text) (subject : Subject) (anyCase : Bool) : Reader Test := do
  let t ← argument word
  if subject = .path ∧ 1 < t.length ∧ t.getLast? = some '/' then
    let warning := "warning: ".toList ++ word ++ ' ' :: t ++
      " will not match anything because it ends with /.".toList
    modify fun r ↦ { r with search := { r.search with told := warning :: r.search.told } }
  let p := Pattern.of false (Marked.ofText true t)
  return .fits subject (if anyCase then p.eitherCase else p)

/-! ### Formats -/

/-- The letters of facts. -/
def factLetters : Text := "abcdDfFgGhHiklmMnpPsStuUyYZ".toList

/-- Keeps something that is to be said before the search. -/
def warn (message : Text) : Reader Unit := modify fun r ↦
  { r with search := { r.search with told := ("warning: ".toList ++ message) :: r.search.told } }

/-- The pieces of a format. Nothing is written from the escape on that ends all output. -/
def pieces : Nat → Text → Reader (List Piece)
  | 0, _ => return []
  | _, [] => return []
  | n + 1, '\\' :: rest => do
    match rest with
    | [] =>
      warn "escape \x60\\' followed by nothing at all".toList
      return [.text ['\\']]
    | 'c' :: _ => return []
    | c :: after =>
      if '0' ≤ c ∧ c ≤ '7' then
        let (value, _, left) := takeNumber 8 3 0 0 rest
        return .text [Char.ofNat (value % 256)] :: (← pieces n left)
      else match letterEscapes.lookup c with
        | some e => return .text [e] :: (← pieces n after)
        | none =>
          warn ("unrecognized escape \x60\\".toList ++ [c, Text.singleQuote])
          return .text ['\\', c] :: (← pieces n after)
  | n + 1, '%' :: rest => do
    let flags := rest.takeWhile fun c ↦ "-+ #".toList.contains c
    let t := rest.drop flags.length
    let width := t.takeWhile Char.isDigit
    let t := t.drop width.length
    let (precision, t) := match t with
      | '.' :: more =>
        (some (Text.digitsValue (more.takeWhile Char.isDigit)), more.dropWhile Char.isDigit)
      | t => (none, t)
    match t with
    | [] => refuse "error: % at end of format string".toList
    | c :: after =>
      let room := if width.isEmpty then none else some (Text.digitsValue width)
      let flags := if width.head? = some '0' then '0' :: flags else flags
      if c = '%' then return .text ['%'] :: (← pieces n after)
      else if "ACT".toList.contains c ∧ !after.isEmpty then
        return .fact flags room precision (c :: after.take 1) :: (← pieces n (after.drop 1))
      else if factLetters.contains c then
        return .fact flags room precision [c] :: (← pieces n after)
      else
        warn ("unrecognized format directive \x60%".toList ++ [c, Text.singleQuote])
        return .text ('%' :: rest.take (rest.length - after.length)) :: (← pieces n after)
  | n + 1, c :: rest => return .text [c] :: (← pieces n rest)

/-- The format that an argument is. -/
def format (t : Text) : Reader (List Piece) := pieces (t.length + 1) t

/-! ### Actions -/

/-- The file that the argument of a word names for output. -/
def placeArgument (word : Text) : Reader Place := do
  let t ← argument word
  modify fun r ↦ { r with search := { r.search with places := t :: r.search.places } }
  return some t

/-- The mark that stands for a path in the words of a command. -/
def pathMark : Text := "\x7b\x7d".toList

/-- Whether a text has the mark for a path in it. -/
def hasMark (t : Text) : Bool :=
  (List.range t.length).any fun i ↦ pathMark.isPrefixOf (t.drop i)

/-- The words of a command up to the one that ends it, and whether that one asks for many files at
once. -/
def callWords : Text → List Text → Option (List Text × Bool × List Text)
  | _, [] => none
  | before, t :: rest =>
    if t = [';'] then some ([], false, rest)
    else if t = ['+'] ∧ hasMark before then some ([], true, rest)
    else (callWords t rest).map fun (words, many, left) ↦ (t :: words, many, left)

/-- The action that runs a command. -/
def callAction (word : Text) (within asks : Bool) : Reader Action := do
  let r ← get
  match if r.rest.isEmpty then none else callWords [] r.rest with
  | none => refuse ("missing argument to ".toList ++ marked word)
  | some (words, many, rest) =>
    set { r with rest }
    if words.isEmpty then refuseArgument word [';']
    if !many ∨ asks then return .run ⟨words, within, asks⟩
    else
      let others := words.dropLast
      if 1 < (words.filter hasMark).length then
        refuse
          ("Only one instance of \x7b\x7d is supported with ".toList ++ word ++ " ... +".toList)
      match words.find? fun t ↦ hasMark t && t != pathMark with
      | some t =>
        refuse ("In ".toList ++ curled (word ++ " ... \x7b\x7d +".toList) ++ " the ".toList ++
          curled pathMark ++ " must appear by itself, but you specified ".toList ++ curled t)
      | none =>
        let number := r.search.gatherings
        modify fun r ↦ { r with search := { r.search with gatherings := number + 1 } }
        return .gather number ⟨others, within, false⟩

/-! ### Words -/

/-- A depth that the argument of a word gives. -/
def depthArgument (word : Text) : Reader Nat := do
  let t ← argument word
  match naturalNumber? t with
  | some n => return n
  | none => refuse ("Expected a positive decimal integer argument to ".toList ++ word ++
      ", but got ".toList ++ curled t)

/-- A test as a word of a query. -/
def tests (t : Test) : Reader Item := return .single (.test t)

/-- An action as a word of a query, which then writes only what it is told to. -/
def acts (a : Action) : Reader Item := do
  modify fun r ↦ { r with search := { r.search with writes := false } }
  return .single (.action a)

/-- An option as a word of a query, which always holds. -/
def chooses (change : Search → Search) : Reader Item := do
  modify fun r ↦ { r with search := change r.search }
  tests (.always true)

/-- The tests of moments, by their words. -/
def ageWords : List String := ["atime", "amin", "ctime", "cmin", "mtime", "mmin", "used"]

/-- Reads one word of a query, with its arguments. -/
def item (word : Text) : Reader Item := do
  let inside (t : Reader Test) : Reader Item := do tests (← t)
  match String.ofList word with
  | "!" | "-not" => return .negation
  | "(" => return .opening
  | ")" => return .closing
  | "," => return .joint 1
  | "-o" | "-or" => return .joint 2
  | "-a" | "-and" => return .joint 3
  | "-true" => tests (.always true)
  | "-false" | "-nouser" | "-nogroup" => tests (.always false)
  | "-name" => inside (patternTest word .name false)
  | "-iname" => inside (patternTest word .name true)
  | "-path" | "-wholename" => inside (patternTest word .path false)
  | "-ipath" | "-iwholename" => inside (patternTest word .path true)
  | "-lname" => inside (patternTest word .target false)
  | "-ilname" => inside (patternTest word .target true)
  | "-regex" => inside (expressionTest word false)
  | "-iregex" => inside (expressionTest word true)
  | "-regextype" =>
    chooseSpelling word
    tests (.always true)
  | "-type" => tests (.kind (← kinds word (← argument word)) false)
  | "-xtype" => tests (.kind (← kinds word (← argument word)) true)
  | "-empty" => tests .empty
  | "-size" => inside (sizeTest word)
  | "-links" => tests (.links (← boundArgument word))
  | "-inum" => tests (.number (← boundArgument word))
  | "-uid" | "-gid" => tests (.owner (← boundArgument word))
  | "-user" => inside (ownerTest word " is not the name of a known user")
  | "-group" => inside (ownerTest word " is not the name of an existing group")
  | "-perm" => inside (modeTest word)
  | "-newer" | "-anewer" | "-cnewer" | "-newermm" =>
    let (_, node) ← nodeArgument word
    tests (.newer node.stamp)
  | "-samefile" =>
    let (n, _) ← nodeArgument word
    tests (.same n)
  | "-readable" | "-writable" => tests (.usable false)
  | "-executable" => tests (.usable true)
  | "-fstype" =>
    let _ ← argument word
    tests (.always false)
  | "-maxdepth" =>
    let n ← depthArgument word
    chooses fun s ↦ { s with maxDepth := some n }
  | "-mindepth" =>
    let n ← depthArgument word
    chooses fun s ↦ { s with minDepth := n }
  | "-depth" | "-d" => chooses fun s ↦ { s with inside := true }
  | "-follow" => chooses fun s ↦ { s with links := .always }
  | "-daystart" | "-mount" | "-xdev" | "-noleaf" | "-warn" | "-nowarn" | "-ignore_readdir_race" |
      "-noignore_readdir_race" => chooses id
  | "-print" => acts (.print '\n' none)
  | "-print0" => acts (.print '\x00' none)
  | "-printf" =>
    let t ← argument word
    acts (.format (← format t) none)
  | "-ls" => acts (.list none)
  | "-fprint" => acts (.print '\n' (← placeArgument word))
  | "-fprint0" => acts (.print '\x00' (← placeArgument word))
  | "-fls" => acts (.list (← placeArgument word))
  | "-fprintf" =>
    let place ← placeArgument word
    let t ← argument word
    acts (.format (← format t) place)
  | "-delete" =>
    modify fun r ↦ { r with search := { r.search with inside := true } }
    acts .delete
  | "-prune" => return .single (.action .prune)
  | "-quit" => acts .quit
  | "-exec" => acts (← callAction word false false)
  | "-execdir" => acts (← callAction word true false)
  | "-ok" => acts (← callAction word false true)
  | "-okdir" => acts (← callAction word true true)
  | known =>
    if ageWords.contains (known.drop 1).toString ∧ word.head? = some '-' then
      tests (.age (← boundArgument word))
    else refuse ("unknown predicate ".toList ++ marked word)

/-- Whether a word belongs to a query, where the paths before it may have ended already. -/
def startsQuery (atStart : Bool) : Text → Bool
  | '-' :: _ :: _ => true
  | ['('] => true
  | ['!'] => true
  | [')'] => !atStart
  | [','] => !atStart
  | _ => false

/-- Reads all words of a query. -/
def items : Nat → Reader (List (Text × Item))
  | 0 => return []
  | n + 1 => do
    let r ← get
    match r.rest with
    | [] => return []
    | word :: rest =>
      if !startsQuery false word then
        let isThere := (r.files.find (pathOf word) false).toOption.isSome
        let guess := if isThere ∧ !r.last.isEmpty then
            "\nfind: possible unquoted pattern after predicate ".toList ++ marked r.last ++ ['?']
          else []
        refuse ("paths must precede expression: ".toList ++ marked word ++ guess)
      set { r with rest }
      let found ← item word
      modify fun r ↦ { r with last := word }
      return (word, found) :: (← items n)

/-! ### Trees -/

/-- Whether a query may start with a word. -/
def Item.starts : Item → Bool
  | .single _ => true
  | .negation => true
  | .opening => true
  | _ => false

/-- Whether a query may end with a word. -/
def Item.ends : Item → Bool
  | .single _ => true
  | .closing => true
  | _ => false

/-- The words of a query with a sign between any two parts that stand side by side. -/
def withJoints : List (Text × Item) → List (Text × Item)
  | a :: b :: rest =>
    if a.2.ends && b.2.starts then a :: ("-a".toList, .joint 3) :: withJoints (b :: rest)
    else a :: withJoints (b :: rest)
  | rest => rest

/-- A query whose parts are joined by a sign that binds as tightly as a level says. -/
def joined (level : Nat) (left right : FileQuery) : FileQuery :=
  match level with
  | 1 => .list left right
  | 2 => .either left right
  | _ => .both left right

/-- How tightly a sign binds that turns an answer. -/
def negationLevel : Nat := 4

/-- Gives up because nothing follows a word. A query that writes what it finds knows that it has
ended. -/
def lacking {α : Type} (writes : Bool) (before : Text) : Except Text α :=
  .error (if writes then "expected an expression after '".toList ++ before ++ [Text.singleQuote]
    else "invalid expression".toList)

mutual

/-- Reads a part of a query and what is joined to it by signs that bind more tightly than a level.
-/
def part (writes : Bool) : Nat → Nat → Text × Bool → List (Text × Item) →
    Except Text (FileQuery × List (Text × Item))
  | 0, _, before, _ => lacking writes before.1
  | _, _, before, [] => lacking writes before.1
  | n + 1, level, before, (word, found) :: rest =>
    match found with
    | .joint _ => .error ("invalid expression; you have used a binary operator '".toList ++ word ++
        "' with nothing before it.".toList)
    | .closing =>
      if before.2 then .error ("expected an expression between '".toList ++ before.1 ++
        "' and ')'".toList)
      else .error "invalid expression; you have too many ')'".toList
    | .single q => joins writes n level q rest
    | .negation =>
      match part writes n negationLevel (word, true) rest with
      | .error e => .error e
      | .ok (q, rest) => joins writes n level (.negated q) rest
    | .opening =>
      match rest with
      | [] => .error (("invalid expression; expected to find a ')' but didn't see one. " ++
          "Perhaps you need an extra predicate after '").toList ++ word ++ [Text.singleQuote])
      | (_, .closing) :: _ =>
        .error "invalid expression; empty parentheses are not allowed.".toList
      | rest =>
        match part writes n 0 (word, false) rest with
        | .error e => .error e
        | .ok (q, (_, .closing) :: rest) => joins writes n level q rest
        | .ok _ =>
          .error ("invalid expression; I was expecting to find a ')' somewhere " ++
            "but did not see one.").toList

/-- Reads what is joined to a query by signs that bind more tightly than a level. -/
def joins (writes : Bool) : Nat → Nat → FileQuery → List (Text × Item) →
    Except Text (FileQuery × List (Text × Item))
  | 0, _, q, rest => .ok (q, rest)
  | n + 1, level, q, (word, .joint tight) :: rest =>
    if level < tight then
      match part writes n tight (word, true) rest with
      | .error e => .error e
      | .ok (right, rest) => joins writes n level (joined tight q right) rest
    else .ok (q, (word, .joint tight) :: rest)
  | _, _, q, rest => .ok (q, rest)

end

/-- The query that words make up. -/
def ofItems (writes : Bool) (words : List (Text × Item)) : Except Text FileQuery :=
  let print : FileQuery := .action (.print '\n' none)
  if words.isEmpty then .ok print
  else
    let words := withJoints words
    match part writes (3 * words.length + 3) 0 ([], false) words with
    | .error e => .error e
    | .ok (q, []) => .ok (if writes then .both q print else q)
    | .ok (_, (_, .closing) :: _) => .error "you have too many ')'".toList
    | .ok (_, (word, _) :: _) =>
      .error ("unexpected extra predicate '".toList ++ word ++ [Text.singleQuote])

/-! ### Searches -/

/-- The options at the start of the arguments, and what follows them. -/
def leading : LinkRule → List Text → LinkRule × List Text
  | links, ['-', '-'] :: rest => (links, rest)
  | _, ['-', 'P'] :: rest => leading .never rest
  | _, ['-', 'H'] :: rest => leading .atStart rest
  | _, ['-', 'L'] :: rest => leading .always rest
  | links, ['-', 'D'] :: _ :: rest => leading links rest
  | links, ('-' :: 'O' :: _) :: rest => leading links rest
  | links, rest => (links, rest)

/-- The search that arguments ask for, and its query, or what is wrong with them. -/
def readSearch (files : FileStore) (arguments : List Text) : Except Text (Search × FileQuery) :=
  let (links, rest) := leading .never arguments
  let starts := rest.takeWhile (!startsQuery true ·)
  let r : Reading := {
    search := { links, starts := if starts.isEmpty then [['.']] else starts }
    rest := rest.drop starts.length
    spelling := none
    last := []
    files }
  match (items (rest.length + 1)).run r with
  | .error e => .error e
  | .ok (words, r) => (ofItems r.search.writes words).map fun q ↦ (r.search, q)

end FileQuery

end CommandScript.Shell
