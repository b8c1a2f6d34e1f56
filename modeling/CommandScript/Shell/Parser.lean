import CommandScript.Shell.Tree

/-!
# Reading trees

A source is read as a tree by functions that take lexemes from it. All of them are given the one
that reads a list of commands, since lists stand within commands to any depth; `listAt` ties the
knot, up to a depth that grows with the source.
-/
namespace CommandScript.Shell

/-- The place in a source at which a reader stands. -/
structure Reading where
  /-- What is left of the source. -/
  rest : Text
  /-- The texts that stand in lines to come, after which reading goes on: how much of the source is
  left at their start and at their end. -/
  jumps : List (Nat × Nat)
  /-- The aliases that are being replaced, with what of the source is left at their end. -/
  barred : List (Text × Nat)
  /-- The lexeme that comes next, if it is known, with what follows it. -/
  ahead : Option (WordMode × Lexeme × Text)

/-- A reader of a source. -/
abbrev Parse := StateT Reading (Except SyntaxFault)

namespace Parser

/-- The line of a place in a source of a number of lines. -/
def lineOf (lines : Nat) (rest : Text) : Nat := lines - rest.count '\n'

section Grammar

variable (rules : Rules) (lines : Nat) (list : Parse Tree)

/-- Stops with a flaw at what is left of the source. -/
def stop {α : Type} (flaw : Flaw) (place : Text) : Parse α := throw ⟨flaw, place, 2⟩

/-- What follows the parenthesis that closes a command line within a word. -/
def skip : Skip := fun t ↦
  match list.run ⟨t, [], [], none⟩ with
  | .error f => .error (match f.flaw with
      | .ending _ => { f with flaw := .unclosedCommand }
      | .unexpected _ _ => { f with status := 127 }
      | _ => f)
  | .ok (_, r) =>
    match lexNext { rules with aliases := [] } (fun t ↦ .ok t) .argument (r.rest.length + 1)
        r.rest with
    | .ok (.operator [')'], after) => .ok after
    | .ok (.ending, after) => .error ⟨.unclosedCommand, after, 2⟩
    | .ok (l, after) => .error ⟨.unexpected l.shown none, after, 127⟩
    | .error f => .error f

/-- The lexeme that comes next, and what follows it. -/
def look (mode : WordMode := .argument) : Parse (Lexeme × Text) := do
  let r ← get
  match r.ahead with
  | some (known, l, after) =>
    if known = mode then return (l, after)
  | none => pure ()
  let found ← lexNext rules (skip rules list) mode (r.rest.length + 1) r.rest
  set { r with ahead := some (mode, found) }
  return found

/-- Goes on to what is left of the source. After a line feed, texts that stand in the lines to come
are passed over. -/
def goTo (after : Text) : Parse Unit := modify fun r ↦
  let after := match r.jumps.lookup after.length with
    | some left => after.drop (after.length - left)
    | none => after
  { r with rest := after, ahead := none }

/-- Takes the lexeme that comes next. -/
def take (mode : WordMode := .argument) : Parse Lexeme := do
  let (l, after) ← look rules list mode
  goTo after
  return l

/-- Stops at a lexeme that cannot stand where it does. -/
def refuse {α : Type} (l : Lexeme) (after : Text) (needed : Option String := none) : Parse α :=
  match l with
  | .ending => stop (.ending needed) after
  | .operator ['\n'] => stop (.unexpected l.shown needed) ('\n' :: after)
  | l => stop (.unexpected l.shown needed) after

/-- Stops at the lexeme that comes next. -/
def refuseNext {α : Type} (needed : Option String := none) : Parse α := do
  let (l, after) ← look rules list
  refuse l after needed

/-- Passes over line feeds. -/
def skipNewlines : Parse Unit := do
  for _ in List.range ((← get).rest.length + 1) do
    let (l, after) ← look rules list
    if l = .operator ['\n'] then goTo after else return

/-- Whether an operator comes next; if so, it is taken. -/
def operator? (o : String) : Parse Bool := do
  let (l, after) ← look rules list
  if l = .operator o.toList then
    goTo after
    return true
  return false

/-- Takes an operator that has to come next. -/
def expectOperator (o : String) : Parse Unit := do
  if !(← operator? rules list o) then refuseNext rules list (some o)

/-- The keyword that comes next, if one does. -/
def keyword : Parse Text := do
  let (l, _) ← look rules list
  return l.keyword?.getD []

/-- Whether a keyword comes next; if so, it is taken. -/
def keyword? (name : String) : Parse Bool := do
  let (l, after) ← look rules list
  if l.keyword? = some name.toList then
    goTo after
    return true
  return false

/-- Takes a keyword that has to come next. -/
def expectKeyword (name : String) : Parse Unit := do
  if !(← keyword? rules list name) then refuseNext rules list (some name)

/-- The words that close a list. -/
def closers : List Text :=
  ["then", "elif", "else", "fi", "do", "done", "esac", "\x7d"].map String.toList

/-- The signs that end the commands of a choice. -/
def choiceSigns : List Text := [";;", ";&", ";;&"].map String.toList

/-- Whether a list ends before a lexeme. -/
def closesList : Lexeme → Bool
  | .ending => true
  | .operator o => o = [')'] || choiceSigns.contains o
  | l => (l.keyword?.map closers.contains).getD false

/-! ### Redirections -/

/-- The lines of a text up to one that a test accepts, with their text, whether there is such a
line, and what follows it. -/
def linesUpTo (stops : Text → Bool) : List Text → List Text × Bool × List Text
  | [] => ([], false, [])
  | line :: rest =>
    if stops (line.filter (· != '\n')) then ([], true, rest)
    else
      let (found, ended, after) := linesUpTo stops rest
      (line :: found, ended, after)

/-- Lines in which a backslash at the end of one joins the next to it. -/
def joinedLines : List Text → List Text
  | [] => []
  | line :: rest =>
    match (line.reverse : Text), joinedLines rest with
    | '\n' :: '\\' :: start, next :: others =>
      if (start.takeWhile (· == '\\')).length % 2 = 0 then (start.reverse ++ next) :: others
      else line :: next :: others
    | _, others => line :: others

/-- What is left of the source after the line that is being read. -/
def afterLine : Nat → Text → Parse Text
  | 0, t => return t
  | n + 1, t => do
    match lexNext rules (skip rules list) .argument (t.length + 1) t with
    | .ok (.ending, after) => return after
    | .ok (.operator ['\n'], after) => return after
    | .ok (_, after) => if after.length < t.length then afterLine n after else return after
    | .error _ => return (t.dropWhile (· != '\n')).drop 1

/-- Reads the text in the lines after the one that is being read, up to a line that is the given
word; when that is quoted, nothing in the text is expanded. -/
def readDocument (sign : Text) (ending : Word) : Parse Redirection := do
  let r ← get
  let next ← afterLine rules list (r.rest.length + 1) r.rest
  let start := match r.jumps.lookup next.length with
    | some left => next.drop (next.length - left)
    | none => next
  let isQuoted := ending.pieces.any Piece.isQuoted
  let trim (t : Text) : Text := if sign = "<<-".toList then t.dropWhile (· == '\t') else t
  let physical := Text.physicalLines start
  let logical := if isQuoted then physical else joinedLines physical
  let (found, ended, rest) := linesUpTo (fun line ↦ trim line == ending.unquoted) logical
  let body := (found.map trim).flatten
  let left := rest.flatten.length
  set { r with jumps := (next.length, left) :: r.jumps.filter fun j ↦ j.1 != next.length }
  let pieces := if isQuoted then [Piece.literal true body]
    else lexQuoted rules (skip rules list) false body
  let lacking := if ended then none
    else some (ending.unquoted, lineOf lines r.rest, lines - 1)
  return .document pieces lacking body

/-- What the sign of a redirection means. -/
def redirectionOf (sign : Text) : Redirection :=
  match String.ofList sign with
  | "<" => .input
  | ">" => .output
  | ">|" => .overwrite
  | ">>" => .append
  | "<>" => .update
  | "<&" => .duplicate true
  | ">&" => .duplicate false
  | "&>" => .both false
  | "&>>" => .both true
  | _ => .given

/-- Reads the rest of a redirection after its sign. -/
def readRedirect (handle : Option Handle) (sign : Text) : Parse Redirect := do
  match ← look rules list with
  | (.word w, after) =>
    goTo after
    let kind ← if sign = "<<".toList ∨ sign = "<<-".toList then
        readDocument rules lines list sign w
      else pure (redirectionOf sign)
    return ⟨handle, kind, sign, w⟩
  | (l, after) => refuse l after

/-- Reads the redirections that come next. -/
def readRedirects : Nat → Parse (List Redirect)
  | 0 => return []
  | n + 1 => do
    match ← look rules list with
    | (.redirect handle sign, after) =>
      goTo after
      let r ← readRedirect rules lines list handle sign
      return r :: (← readRedirects n)
    | _ => return []

/-! ### Simple commands -/

/-- The commands whose arguments may be assignments of arrays. -/
def declaringCommands : List Text :=
  ["declare", "typeset", "local", "export", "readonly", "alias", "eval", "let"].map String.toList

/-- How the next word of a simple command is cut, after the words before it. -/
def modeAfter (words : List Word) : WordMode :=
  match words.dropWhile fun w ↦ w.assignment.isSome with
  | [] => .assignment
  | w :: rest =>
    match w.plain? with
    | some name =>
      if declaringCommands.contains name then .assignment
      else if name = "command".toList ∨ name = "builtin".toList then
        match (rest.head?.bind Word.plain?) with
        | some name => if declaringCommands.contains name then .assignment else .argument
        | none => .argument
      else .argument
    | none => .argument

/-- Replaces the word that comes next, when it is an alias, until it is none. -/
def replaceAliases : Nat → Parse Unit
  | 0 => return
  | n + 1 => do
    if rules.aliases.isEmpty then return
    match ← look rules list .assignment with
    | (.word w, after) =>
      let r ← get
      let isBarred (name : Text) : Bool :=
        r.barred.any fun (other, left) ↦ other = name && left ≤ after.length
      match w.plain? with
      | none => return
      | some name =>
        match if isBarred name then none else rules.aliases.lookup name with
        | none => return
        | some value =>
          set { r with
            rest := value ++ after
            ahead := none
            barred := (name, after.length) :: r.barred.filter fun b ↦ b.2 ≤ after.length }
          replaceAliases n
    | _ => return

/-- Whether the text of an alias that has just been left ends with a blank, so that the next word
may be an alias too. -/
def leavesAlias : Parse Bool := do
  let r ← get
  match r.barred.find? fun b ↦ b.2 = r.rest.length || b.2 + 1 = r.rest.length with
  | some (name, _) =>
    return ((rules.aliases.lookup name).bind List.getLast?).any isShellBlank
  | none => return false

/-- Reads the words and redirections of a simple command, in turn. The line of the command is the
one at the end of the lexeme after its first word. -/
def readSimple : Nat → Option Nat → List Word → List Redirect → Parse Tree
  | 0, line, words, redirects =>
    return .simple (line.getD 0) words.reverse redirects.reverse
  | n + 1, line, words, redirects => do
    if (words.all fun w ↦ w.assignment.isSome) ∨ (← leavesAlias rules) then
      replaceAliases rules list (rules.aliases.length + 1)
    let (l, after) ← look rules list (modeAfter words.reverse)
    let line := line.or (if words.isEmpty ∧ redirects.isEmpty then none else
      some (lineOf lines (if l = .operator ['\n'] then '\n' :: after else after)))
    match l with
    | .word w =>
      goTo after
      readSimple n line (w :: words) redirects
    | .redirect handle sign =>
      goTo after
      let r ← readRedirect rules lines list handle sign
      readSimple n line words (r :: redirects)
    | l =>
      if words.isEmpty ∧ redirects.isEmpty then refuse l after
      else return .simple (line.getD (lineOf lines after)) words.reverse redirects.reverse

/-! ### Conditions -/

/-- The operators that test one word. -/
def unaryTests : List Text :=
  ["-a", "-b", "-c", "-d", "-e", "-f", "-g", "-h", "-k", "-n", "-o", "-p", "-r", "-s", "-t", "-u",
    "-v", "-w", "-x", "-z", "-G", "-L", "-N", "-O", "-R", "-S"].map String.toList

/-- The operators that test two words. -/
def binaryTests : List Text :=
  ["=", "==", "!=", "=~", "-eq", "-ne", "-lt", "-le", "-gt", "-ge", "-nt", "-ot",
    "-ef"].map String.toList

/-- The operator that a lexeme is between two words. -/
def binaryTest? : Lexeme → Option Text
  | .redirect none ['<'] => some ['<']
  | .redirect none ['>'] => some ['>']
  | l => l.keyword?.filter binaryTests.contains

/-- Stops in a condition, with what is said about it. -/
def refuseCondition {α : Type} (remarks : List Text) (after : Text) (atEnd : Bool := false) :
    Parse α := stop (.condition remarks atEnd) after

/-- Stops at a lexeme of a condition, with what is said about it. A line feed is not passed over. -/
def refuseOperand {α : Type} (remark : Text) (l : Lexeme) (after : Text) : Parse α :=
  match l with
  | .ending => refuseCondition [remark] after true
  | .operator ['\n'] => refuseCondition [remark] ('\n' :: after) true
  | _ => refuseCondition [remark] after

/-- Whether a lexeme ends a line. -/
def endsLine : Lexeme → Bool
  | .ending => true
  | .operator ['\n'] => true
  | _ => false

/-- Whether a lexeme ends a condition. -/
def closesCondition (l : Lexeme) : Bool := l.keyword? = some "]]".toList

/-- What is said about a lexeme in the place of an operator of a condition. -/
def strangeOperator (l : Lexeme) : Text :=
  match l with
  | .word _ => "conditional binary operator expected".toList
  | l => "unexpected token ".toList ++ citedText l.shown ++
      ", conditional binary operator expected".toList

/-- Reads a condition that starts with a given word. -/
def readTest (w : Word) : Parse Condition := do
  let (l, after) ← look rules list
  let isUnary := unaryTests.contains (w.plain?.getD [])
  match isUnary, l with
  | true, .word operand =>
    if closesCondition l then
      refuseCondition ["unexpected argument ".toList ++ citedText l.shown ++
        " to conditional unary operator".toList] after
    goTo after
    return .unary (w.plain?.getD []) operand
  | true, _ =>
    refuseOperand ("unexpected argument ".toList ++ citedText l.shown ++
      " to conditional unary operator".toList) l after
  | false, l =>
    match binaryTest? l with
    | some o =>
      goTo after
      let mode : WordMode := if o = "=~".toList then .expression
        else if o = ['='] ∨ o = "==".toList ∨ o = "!=".toList then .pattern else .argument
      let (right, after) ← look rules list mode
      match right with
      | .word r =>
        if closesCondition right then
          refuseCondition ["unexpected argument ".toList ++ citedText right.shown ++
            " to conditional binary operator".toList] after
        goTo after
        return .binary w o r
      | right =>
        refuseOperand ("unexpected argument ".toList ++ citedText right.shown ++
          " to conditional binary operator".toList) right after
    | none =>
      let fits : Bool := closesCondition l ||
        [")", "&&", "||"].any fun o ↦ l = .operator o.toList
      if fits then return .word w
      else refuseOperand (strangeOperator l) l after

/-- Reads conditions joined by operators: by two bars at the outer level, by two ampersands at the
next, single ones at the last. -/
def readCondition : Nat → Nat → Parse Condition
  | _, 0 => refuseNext rules list
  | 2, n + 1 => do
    let left ← readCondition 1 n
    skipNewlines rules list
    if ← operator? rules list "||" then return .either left (← readCondition 2 n)
    return left
  | 1, n + 1 => do
    let left ← readCondition 0 n
    skipNewlines rules list
    if ← operator? rules list "&&" then return .both left (← readCondition 1 n)
    return left
  | _, n + 1 => do
    skipNewlines rules list
    if ← operator? rules list "(" then
      let c ← readCondition 2 n
      if ← operator? rules list ")" then return .enclosed c
      let (l, after) ← look rules list
      refuseOperand ("unexpected token ".toList ++ citedText l.shown ++
        ", expected \x60)'".toList) l after
    if ← keyword? rules list "!" then
      return .negated (← readCondition 0 n)
    match ← look rules list with
    | (.word w, after) =>
      if closesCondition (.word w) then refuseCondition [] after
      goTo after
      readTest rules list w
    | (.ending, after) =>
      refuseCondition ["unexpected token \x60EOF' in conditional command".toList,
        "syntax error: unexpected end of file".toList] after true
    | (l, after) =>
      refuseCondition ["unexpected token ".toList ++ citedText l.shown ++
        " in conditional command".toList] after

/-! ### Compound commands -/

/-- Reads a list of at least one command, with what a source that ends there lacks. -/
def readBody (needed : Option String := none) : Parse Tree := do
  skipNewlines rules list
  let (l, after) ← look rules list
  if closesList l then refuse l after (if l = .ending then needed else none) else list

/-- The three expressions of a counting loop. -/
def splitExpressions (source : Text) : Option (Text × Text × Text) :=
  match Text.fields ';' source with
  | [start, condition, step] => some (start, condition, step)
  | _ => none

/-- Reads the body of a loop between its keywords. -/
def readDo : Parse Tree := do
  if rules.dialect = .extended then
    if ← keyword? rules list "\x7b" then
      let body ← readBody rules list
      expectKeyword rules list "\x7d"
      return body
  expectKeyword rules list "do"
  let body ← readBody rules list (some "done")
  expectKeyword rules list "done"
  return body

/-- Reads the words of a loop over words. -/
def readLoopWords : Nat → Parse (List Word)
  | 0 => return []
  | n + 1 => do
    match ← look rules list with
    | (.word w, after) =>
      goTo after
      return w :: (← readLoopWords n)
    | _ => return []

/-- Reads the rest of a loop over words or of a menu, after its keyword. -/
def readEach (make : Nat → Text → Option (List Word) → Tree → Tree) : Parse Tree := do
  match ← look rules list with
  | (.word w, after) =>
    if rules.dialect = .standard ∧ !(w.plain?.any isVariableName) then stop .loopName after
    let line := lineOf lines after
    goTo after
    skipNewlines rules list
    let words ← if ← keyword? rules list "in" then
        let words ← readLoopWords rules list ((← get).rest.length + 1)
        let (l, after) ← look rules list
        if l = .operator [';'] ∨ l = .operator ['\n'] then goTo after else refuse l after
        pure (some words)
      else
        let _ ← operator? rules list ";"
        pure none
    skipNewlines rules list
    return make line w.unquoted words (← readDo rules list)
  | (l, after) => if rules.dialect = .standard then stop .loopName after else refuse l after

/-- Reads the rest of a counting loop, after the two parentheses that open its expressions. -/
def readCount (rest : Text) : Parse Tree := do
  let line := lineOf lines rest
  match closeNested '(' ')' none 0 rest with
  | some (source, ')' :: after) =>
    match splitExpressions source with
    | none => stop (.lacksExpression source) after
    | some (start, condition, step) =>
      goTo after
      let _ ← operator? rules list ";"
      skipNewlines rules list
      return .count line (start.dropWhile isSpace) (condition.dropWhile isSpace)
        (step.dropWhile isSpace) (← readDo rules list)
  | some (source, after) => stop (.near (source.dropWhile (· != ';') ++ [')'])) after
  | none => stop (.unclosed ')') rest

/-- Reads the patterns of a choice, up to the closing parenthesis. The language of the standard
takes whatever stands in the place of a pattern for one. -/
def readPatterns : Nat → Parse (List Word)
  | 0 => refuseNext rules list
  | n + 1 => do
    let (l, after) ← look rules list
    let w ← match l, rules.dialect with
      | .word w, _ => pure w
      | .ending, _ => refuse l after (some ")")
      | l, .standard => pure (Word.ofText l.shown)
      | l, .extended => refuse l after
    goTo after
    if ← operator? rules list "|" then return w :: (← readPatterns n)
    expectOperator rules list ")"
    return [w]

/-- Reads the choices for a word, up to the end of them. -/
def readChoices : Nat → Parse Tree
  | 0 => refuseNext rules list
  | n + 1 => do
    skipNewlines rules list
    if ← keyword? rules list "esac" then return .nothing
    let _ ← operator? rules list "("
    let patterns ← readPatterns rules list ((← get).rest.length + 1)
    skipNewlines rules list
    let (l, _) ← look rules list
    let body ← if closesList l then pure .nothing else list
    match ← look rules list with
    | (.operator o, after) =>
      if choiceSigns.contains o then
        goTo after
        let ending : ChoiceEnd := if o = ";&".toList then .fallsThrough
          else if o = ";;&".toList then .goesOn else .stops
        return .choice patterns body ending (← readChoices n)
      else refuse (.operator o) after (some ";;")
    | _ =>
      if !(← keyword? rules list "esac") then refuseNext rules list (some ";;")
      return .choice patterns body .stops .nothing

/-- Reads the rest of a choice between two bodies, from its condition on. -/
def readBranch : Nat → Parse Tree
  | 0 => refuseNext rules list
  | n + 1 => do
    let condition ← readBody rules list (some "then")
    expectKeyword rules list "then"
    let yes ← readBody rules list (some "fi")
    if ← keyword? rules list "elif" then return .branch condition yes (← readBranch n)
    if ← keyword? rules list "else" then
      let no ← readBody rules list (some "fi")
      expectKeyword rules list "fi"
      return .branch condition yes no
    expectKeyword rules list "fi"
    return .branch condition yes .nothing

/-- The words that open a compound command. -/
def openers : List Text :=
  ["if", "while", "until", "for", "case", "\x7b"].map String.toList

/-- The further words that do so in the extended language. -/
def extendedOpeners : List Text := ["select", "[["].map String.toList

/-- Whether a keyword opens a compound command. -/
def opensCompound (keyword : Text) : Bool :=
  openers.contains keyword || (rules.dialect = .extended && extendedOpeners.contains keyword)

/-- Whether two parentheses come next that open an arithmetic expression, with its text and what
follows it. -/
def arithmetic? : Parse (Option (Text × Text)) := do
  if rules.dialect = .standard then return none
  let (_, _) ← look rules list
  match ((← get).rest.dropWhile fun c ↦ isShellBlank c) with
  | '(' :: '(' :: rest =>
    match closeNested '(' ')' none 0 rest with
    | some (source, ')' :: after) => return some (source, after)
    | some (source, after) =>
      if after.isEmpty ∨ after.head? = some '\n' then
        let whole := "((".toList ++ source ++ [')']
        stop (.near (whole.reverse.takeWhile (!" \n\t;|&".toList.contains ·)).reverse) after
      else return none
    | none => stop (.unclosed ')') rest
  | _ => return none

/-- Reads a compound command without the redirections after it. -/
def readCompound : Parse Tree := do
  let name := String.ofList (← keyword rules list)
  let line := lineOf lines (← look rules list).2
  let size := (← get).rest.length + 1
  match ← arithmetic? rules list with
  | some (source, after) =>
    goTo after
    return .arithmetic line source
  | none =>
    if ← operator? rules list "(" then
      let body ← readBody rules list (some ")")
      expectOperator rules list ")"
      return .subshell (lineOf lines (← get).rest) body
    let _ ← take rules list
    match name with
    | "\x7b" =>
      let body ← readBody rules list (some "\x7d")
      expectKeyword rules list "\x7d"
      return .group body
    | "if" => readBranch rules list size
    | "while" | "until" =>
      let condition ← readBody rules list (some "do")
      let body ← readDo rules list
      return .loop (name = "while") condition body
    | "for" =>
      match ((← get).rest.dropWhile fun c ↦ isShellBlank c), rules.dialect with
      | '(' :: '(' :: rest, .extended => readCount rules lines list rest
      | _, _ => readEach rules lines list .each
    | "select" => readEach rules lines list .menu
    | "case" =>
      match ← look rules list with
      | (.word w, after) =>
        goTo after
        skipNewlines rules list
        expectKeyword rules list "in"
        return .select line w (← readChoices rules list size)
      | (l, after) => refuse l after (some "word")
    | _ =>
      let c ← readCondition rules list 2 size
      skipNewlines rules list
      match ← look rules list with
      | (l, after) =>
        if closesCondition l then
          goTo after
          return .condition line c
        else if l = .ending then
          refuseCondition ["unexpected EOF while looking for \x60]]'".toList] after true
        else refuseCondition ["syntax error in conditional expression".toList ++ (match l with
            | .word _ => []
            | l => ": unexpected token ".toList ++ citedText l.shown)] after

/-- Reads a compound command with the redirections after it. -/
def readRedirected : Parse Tree := do
  let t ← readCompound rules lines list
  let rs ← readRedirects rules lines list ((← get).rest.length + 1)
  return if rs.isEmpty then t else .redirected t rs

/-- Reads the body of a function: a compound command. -/
def readFunction (name : Text) : Parse Tree := do
  skipNewlines rules list
  let (l, after) ← look rules list
  let line := lineOf lines after
  if l = .operator ['('] ∨ opensCompound rules (l.keyword?.getD []) then
    return .define line name (← readRedirected rules lines list)
  else if rules.dialect = .standard ∧ !closesList l then
    return .define line name (← readSimple rules lines list ((← get).rest.length + 1) none [] [])
  else refuse l after

/-- Reads one command, simple or compound. -/
def readCommand : Parse Tree := do
  replaceAliases rules list (rules.aliases.length + 1)
  let (l, after) ← look rules list .assignment
  let name := l.keyword?.getD []
  if l = .operator ['('] ∨ opensCompound rules name then readRedirected rules lines list
  else if name = "function".toList ∧ rules.dialect = .extended then
    goTo after
    match ← look rules list with
    | (.word w, after) =>
      goTo after
      let r ← get
      if ← operator? rules list "(" then
        if !(← operator? rules list ")") then set r
      readFunction rules lines list w.unquoted
    | (l, after) => refuse l after
  else if closesList l ∨ name = "in".toList then refuse l after
  else
    match after.dropWhile fun c ↦ isShellBlank c with
    | '(' :: _ =>
      let isWord := match l with
        | .word w => w.assignment.isNone
        | _ => false
      if !isWord ∨ (name.isEmpty ∧ rules.dialect = .extended) then
        readSimple rules lines list ((← get).rest.length + 1) none [] []
      else
        goTo after
        expectOperator rules list "("
        expectOperator rules list ")"
        if rules.dialect = .standard ∧
            (!isVariableName name ∨ isSpecial name) then
          stop .functionName (← get).rest
        readFunction rules lines list name
    | _ => readSimple rules lines list ((← get).rest.length + 1) none [] []

/-- Whether a lexeme ends a command, so that a sign before it stands by itself. -/
def endsCommand (l : Lexeme) : Bool :=
  endsLine l || l = .operator [';']

/-- Reads a pipeline, which an exclamation mark turns around and whose time may be told. -/
def readPipeline : Nat → Parse Tree
  | 0 => refuseNext rules list
  | n + 1 => do
    let pipeOn (t : Tree) : Parse Tree := do
      if ← operator? rules list "|" then
        skipNewlines rules list
        return .pipe t (← readPipeline n)
      if ← operator? rules list "|&" then
        skipNewlines rules list
        let joined : Redirect :=
          ⟨some (.number 2), .duplicate false, ">&".toList, ⟨[.literal false ['1']], ['1'], none⟩⟩
        return .pipe (.redirected t [joined]) (← readPipeline n)
      return t
    let extended := rules.dialect = .extended
    if ← keyword? rules list "!" then
      let (l, _) ← look rules list
      if endsCommand l ∧ extended then return .negated .nothing
      else return .negated (← readPipeline n)
    else if extended then
      if ← keyword? rules list "time" then
        let plainly ← keyword? rules list "-p"
        let _ ← keyword? rules list "--"
        let (l, _) ← look rules list
        if endsCommand l then return .timed plainly .nothing
        else return .timed plainly (← readPipeline n)
      else pipeOn (← readCommand rules lines list)
    else pipeOn (← readCommand rules lines list)

/-- Reads the rest of a chain of pipelines that depend on each other's success. -/
def readChain : Nat → Tree → Parse Tree
  | 0, t => return t
  | n + 1, t => do
    let size := (← get).rest.length + 1
    if ← operator? rules list "&&" then
      skipNewlines rules list
      readChain n (.both t (← readPipeline rules lines list size))
    else if ← operator? rules list "||" then
      skipNewlines rules list
      readChain n (.either t (← readPipeline rules lines list size))
    else return t

/-- Reads pipelines that depend on each other's success. -/
def readAndOr : Parse Tree := do
  let size := (← get).rest.length + 1
  readChain rules lines list size (← readPipeline rules lines list size)

/-- Reads a list of commands, up to what closes it. -/
def readList : Nat → Parse Tree
  | 0 => return .nothing
  | n + 1 => do
    skipNewlines rules list
    let (l, _) ← look rules list
    if closesList l then return .nothing
    let t ← readAndOr rules lines list
    let (l, after) ← look rules list
    let goOn (t : Tree) : Parse Tree := do
      goTo after
      return match ← readList n with
        | .nothing => t
        | u => .sequence t u
    match l with
    | .operator [';'] => goOn t
    | .operator ['\n'] => goOn t
    | .operator ['&'] => goOn (.background t)
    | .ending => return t
    | .operator o =>
      if o = [')'] ∨ choiceSigns.contains o then return t else refuse l after
    | l => refuse l after

/-- Reads the commands up to the end of a line that ends no command under way. -/
def readLine : Nat → Parse Tree
  | 0 => return .nothing
  | n + 1 => do
    let t ← readAndOr rules lines list
    let (l, after) ← look rules list
    let goOn (t : Tree) : Parse Tree := do
      goTo after
      let (next, after) ← look rules list
      if next = .operator ['\n'] then
        goTo after
        return t
      else if next = .ending then return t
      else return .sequence t (← readLine n)
    match l with
    | .operator ['\n'] =>
      goTo after
      return t
    | .ending => return t
    | .operator [';'] => goOn t
    | .operator ['&'] => goOn (.background t)
    | l => refuse l after

end Grammar

/-- Reads lists within commands up to a depth. -/
def listAt (rules : Rules) (lines : Nat) : Nat → Parse Tree
  | 0 => refuse .ending []
  | n + 1 => do
    readList rules lines (listAt rules lines n) ((← get).rest.length + 1)

/-- The greatest depth of lists within commands. -/
def maxDepth : Nat := 200

/-- What passes over command lines within words that have been read before. -/
def skipKnown (rules : Rules) : Skip :=
  skip { rules with aliases := [] } (listAt { rules with aliases := [] } 0 maxDepth)

end Parser

/-- What comes of reading the next line of a source: nothing where no command is left, or a tree and
what is left after its line. -/
def readLine (rules : Rules) (lines : Nat) (source : Text) :
    Except SyntaxFault (Option (Tree × Text)) :=
  let list := Parser.listAt rules lines Parser.maxDepth
  let reader : Parse (Option Tree) := do
    Parser.skipNewlines rules list
    let (l, _) ← Parser.look rules list
    if l = .ending then return none
    return some (← Parser.readLine rules lines list (source.length + 1))
  (reader.run ⟨source, [], [], none⟩).map fun (tree, r) ↦ tree.map fun t ↦ (t, r.rest)

/-- The words of the members of an array, with the comments between them left out. -/
def memberWords (rules : Rules) (source : Text) : List Word :=
  let skip := Parser.skipKnown rules
  let word? (t : Text) : Option (Word × Text) :=
    match t with
    | '[' :: inner =>
      match closeNested '[' ']' none 0 inner with
      | some (subscript, after) =>
        let (adds, value?) : Bool × Option Text := match after with
          | '=' :: value => (false, some value)
          | '+' :: '=' :: value => (true, some value)
          | _ => (false, none)
        value?.bind fun value ↦
          match lexPieces rules skip .argument 0 (value.length + 1) value with
          | .ok (ps, rest) =>
            some (⟨[.literal true (before t rest)], before t rest,
              some ⟨⟨[], some subscript, adds⟩, .value ps⟩⟩, rest)
          | .error _ => none
      | none => none
    | _ => none
  let rec collect : Nat → Text → List Word
    | 0, _ => []
    | n + 1, t =>
      let t := t.dropWhile isSpace
      match word? t with
      | some (w, rest) => w :: collect n rest
      | none =>
        match lexNext rules skip .argument (t.length + 1) t with
        | .ok (.word w, rest) => w :: collect n rest
        | .ok (.operator _, rest) => collect n rest
        | _ => []
  collect (source.length + 1) source

end CommandScript.Shell
