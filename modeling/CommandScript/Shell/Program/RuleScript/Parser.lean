import CommandScript.Shell.Program.RuleScript.Lexeme

/-!
# Reading rule scripts

The terms of a script are read by levels: what binds weaker is read first and asks for what binds
stronger. An assignment may stand wherever a term starts. Two terms next to each other are joined.
In what is printed, a sign for greater leads the output to a file, unless it stands in parentheses.
-/
namespace CommandScript.Shell

/-- The notation of expressions in rule scripts. -/
def Expression.Spelling.ofRules : Expression.Spelling :=
  { Expression.Spelling.extended with
    bracesRefused := false, gapsRefused := true, sets := .program }

namespace RuleScript

/-- The words for an expression that cannot be read. -/
def flawWords (f : Expression.Flaw) (source : Text) : Text :=
  let words := match f with
    | .notClosed => "missing ')'"
    | .openSet => "bad class -- [], [^] or ["
    | .nothingRepeated => "missing operand"
    | .gap => "missing operand"
    | _ => "bad interval expression"
  "regular expression compile failed (".toList ++ words.toList ++ ")\n".toList ++ source

/-- The expression of a source, or the words for what is wrong with it. -/
def expressionOf (source : Text) : Except Text Expression :=
  match Expression.read .ofRules source with
  | .ok e => .ok e
  | .error f => .error (flawWords f source)

/-- A **fault** of a script. -/
structure RuleFault where
  /-- Where it is, if that is said. -/
  place : Option SignPlace
  /-- What is said about it. -/
  words : Text

/-- Where the reading of a script stands. -/
structure Parsing where
  /-- What is still to be read. -/
  rest : List (Sign × SignPlace)
  /-- The faults so far, the latest first. -/
  faults : List RuleFault := []
  /-- Whether nothing more is said. -/
  isOver : Bool := false
  /-- The names of the variables so far. -/
  names : List Text := specialNames.map String.toList
  /-- The parameters of the function under way. -/
  parameters : List Text := []
  /-- Whether a function is under way. -/
  inFunction : Bool := false
  /-- Whether records are read where the statement under way is done. -/
  inRules : Bool := false
  /-- How many loops are around the statement under way. -/
  loops : Nat := 0
  /-- How many braces are open. -/
  braces : Nat := 0
  /-- How many parentheses are open. -/
  parens : Nat := 0
  /-- The functions so far, with the numbers of their parameters. -/
  functions : List (Text × Nat) := []
  /-- The functions that have been called, with the numbers of arguments, the latest first. -/
  called : List (Text × SignPlace × Nat) := []
  /-- Which variables have been used as tables, and which as something else. -/
  kinds : List (Slot × Bool) := specialNames.zipIdx.map fun (name, i) ↦
    (.global i, name = "ENVIRON" || name = "ARGV")

/-- A computation that reads a script. Where it fails, the fault has been noted. -/
abbrev Parser := ExceptT Unit (StateM Parsing)

namespace Parser

/-! ### Signs -/

/-- The place of the sign that comes next. -/
def place : Parser SignPlace := do return (((← get).rest.head?).map (·.2)).getD ⟨none, 1⟩

/-- Notes a fault at a place. -/
def noteAt (place : Option SignPlace) (words : Text) : Parser Unit := modify fun s ↦
  if s.isOver then s else { s with faults := ⟨place, words⟩ :: s.faults }

/-- Notes a fault. -/
def note (words : Text) : Parser Unit := do noteAt (← place) words

/-- Takes the sign that comes next. -/
def take : Parser Unit := modify fun s ↦ { s with rest := s.rest.drop 1 }

/-- Passes over parentheses that close nothing. -/
def dropExtra : Nat → Parser Unit
  | 0 => return
  | n + 1 => do
    let s ← get
    if s.parens = 0 ∧ (s.rest.head? matches some (.mark ")", _)) then
      note "extra ')'".toList
      take
      dropExtra n

/-- The sign that comes next. The name of a variable is one before a parenthesis too, and that of a
function is one before a blank too. -/
def peek : Parser Sign := do
  dropExtra (← get).rest.length
  let s ← get
  match s.rest with
  | (.called f, _) :: _ =>
    return if s.parameters.contains f || s.names.contains f then .name f else .called f
  | (.name f, _) :: _ =>
    return if !s.parameters.contains f && (s.functions.lookup f).isSome then .called f else .name f
  | (s, _) :: _ => return s
  | [] => return .finish

/-- Notes what is said about something that is no sign, if that comes next. -/
def noteFlaw : Parser Unit := do
  match ← peek with
  | .flaw words true =>
    note words
    modify fun s ↦ { s with isOver := true }
  | .flaw words false => noteAt none (shown (← place).line ++ ": ".toList ++ words)
  | _ => return

/-- Stops with words for the reason. -/
def fail {α : Type} (words : Text) : Parser α := do
  note words
  throw ()

/-- Stops since the sign that comes next is not expected. -/
def unexpected {α : Type} : Parser α := do
  let s ← get
  let next ← peek
  let near := " near ".toList ++ next.shown
  let isEnd : Bool := match next with
    | .finish => true
    | _ => false
  let stops : Bool := match next with
    | .mark t => t = ";" || t = "\x7d"
    | .line => true
    | _ => isEnd
  match next with
  | .flaw _ _ =>
    noteFlaw
    throw ()
  | _ =>
    if isEnd ∧ 0 < s.braces then fail ("missing \x7d".toList ++ near)
    else if stops ∧ 0 < s.parens then fail ("missing )".toList ++ near)
    else fail ("syntax error at or".toList ++ near)

/-- Whether a mark comes next. -/
def isMark (t : String) : Parser Bool := do
  match ← peek with
  | .mark u => return t == u
  | _ => return false

/-- Whether a word comes next. -/
def isWord (t : String) : Parser Bool := do
  match ← peek with
  | .word u => return t == u
  | _ => return false

/-- Takes a mark if it comes next, and gives whether it did. -/
def takeMark (t : String) : Parser Bool := do
  if ← isMark t then
    take
    modify fun s ↦ { s with
      braces := if t = "\x7b" then s.braces + 1 else if t = "\x7d" then s.braces - 1 else s.braces
      parens := if t = "(" then s.parens + 1 else if t = ")" then s.parens - 1 else s.parens }
    return true
  else return false

/-- Takes a mark. -/
def expect (t : String) : Parser Unit := do
  if !(← takeMark t) then unexpected

/-- Passes over the ends of lines, and over semicolons too if that is asked for. -/
def skipLines (semicolons : Bool) : Nat → Parser Unit
  | 0 => return
  | n + 1 => do
    match ← peek with
    | .line =>
      take
      skipLines semicolons n
    | .mark ";" =>
      if semicolons then
        take
        skipLines semicolons n
    | _ => return

/-- Passes over the ends of lines. -/
def lines : Parser Unit := do skipLines false (← get).rest.length

/-- Passes over the ends of statements. -/
def gaps : Parser Unit := do skipLines true (← get).rest.length

/-- Takes a mark and the ends of lines behind it, if it comes next. -/
def takeOperator (t : String) : Parser Bool := do
  if ← takeMark t then
    lines
    return true
  else return false

/-- The variable of a name. -/
def slot (name : Text) : Parser Slot := do
  let s ← get
  match s.parameters.idxOf? name, s.names.idxOf? name with
  | some i, _ => return .own i
  | none, some i => return .global i
  | none, none =>
    set { s with names := s.names ++ [name] }
    return .global s.names.length

/-- Notes whether a variable is used as a table. A variable cannot be both. -/
def markKind (name : Text) (s : Slot) (isTable : Bool) : Parser Unit := do
  match (← get).kinds.lookup s with
  | none => modify fun p ↦ { p with kinds := (s, isTable) :: p.kinds }
  | some known =>
    if known != isTable then
      let isOwn := match s with
        | .own _ => true
        | .global _ => false
      note ("illegal reference to ".toList ++ (if isOwn then "local " else "").toList ++
        (if known then "array " else "variable ").toList ++ name)

/-- The table of a name. -/
def tableSlot (name : Text) : Parser Slot := do
  let s ← slot name
  markKind name s true
  return s

/-- The name that comes next, of a variable. -/
def name : Parser Text := do
  match ← peek with
  | .name t =>
    take
    return t
  | _ => unexpected

/-- An expression that stands in the script. -/
def pattern (source : Text) : Parser Expression := do
  match expressionOf source with
  | .ok e => return e
  | .error words =>
    note words
    return .empty

/-- A term as an expression that is looked for, if it is a text that stands in the script. -/
def asPattern : Term → Parser Term
  | .text t => do return .pattern (← pattern t)
  | t => return t

/-! ### Terms -/

/-- The marks of assignments, with what they do to the old value. -/
def assignments : List (String × Option Operation) := [
  ("=", none), ("+=", some .add), ("-=", some .subtract), ("*=", some .multiply),
  ("/=", some .divide), ("%=", some .remainder), ("^=", some .power)]

/-- The marks of comparisons. -/
def relations : List (String × Relation) := [
  ("<", .less), ("<=", .atMost), ("==", .equal), ("!=", .unequal),
  (">", .greater), (">=", .atLeast)]

/-- The marks of sums. -/
def sums : List (String × Operation) := [("+", .add), ("-", .subtract)]

/-- The marks of products. -/
def products : List (String × Operation) := [("*", .multiply), ("/", .divide), ("%", .remainder)]

/-- Takes a mark of a table, if one comes next, and gives what it stands for. -/
def takeOf {α : Type} (table : List (String × α)) : Parser (Option α) := do
  match ← peek with
  | .mark t =>
    match table.lookup t with
    | some a =>
      take
      return some a
    | none => return none
  | _ => return none

/-- Whether a sign starts a term that can be joined to the one before it. -/
def startsJoined : Sign → Bool
  | .number _ _ => true
  | .text _ => true
  | .pattern _ => true
  | .name _ => true
  | .called _ => true
  | .word t => (Routine.table.lookup t).isSome
  | .mark t => t = "$" || t = "(" || t = "!" || t = "++" || t = "--"
  | _ => false

/-- The level of the terms next to each other; sums, products and signs bind stronger. -/
def joinLevel : Nat := 5

mutual

/-- A term. -/
def term : Nat → Bool → Parser Term
  | 0, _ => unexpected
  | n + 1, inPrint => do
    let c ← level n 0 inPrint true
    if ← takeMark "?" then
      let a ← term n inPrint
      expect ":"
      return .choice c a (← term n inPrint)
    else return c

/-- A term of a level and those that bind stronger. -/
def level : Nat → Nat → Bool → Bool → Parser Term
  | 0, _, _, _ => unexpected
  | n + 1, k, inPrint, assigns => do
    if k = joinLevel + 3 then signed n inPrint assigns
    else more n k inPrint (← level n (k + 1) inPrint assigns)

/-- What follows a term on a level. -/
def more : Nat → Nat → Bool → Term → Parser Term
  | 0, _, _, a => return a
  | n + 1, k, inPrint, a => do
    let operand (assigns : Bool) : Parser Term := level n (k + 1) inPrint assigns
    match k with
    | 0 => if ← takeOperator "||" then more n k inPrint (.oneOf a (← operand true)) else return a
    | 1 => if ← takeOperator "&&" then more n k inPrint (.both a (← operand true)) else return a
    | 2 =>
      if ← isWord "in" then
        take
        more n k inPrint (.isIn [a] (← tableSlot (← name)))
      else return a
    | 3 =>
      if ← takeMark "~" then more n k inPrint (.occurs a (← asPattern (← operand true)))
      else if ← takeMark "!~" then
        more n k inPrint (.negation (.occurs a (← asPattern (← operand true))))
      else return a
    | 4 =>
      if inPrint ∧ (← isMark ">") then return a
      match ← takeOf relations with
      | some r => more n k inPrint (.compare r a (← operand true))
      | none => return a
    | 5 =>
      if startsJoined (← peek) then more n k inPrint (.join a (← operand false)) else return a
    | 6 =>
      match ← takeOf sums with
      | some op => more n k inPrint (.compute op a (← operand false))
      | none => return a
    | _ =>
      match ← takeOf products with
      | some op => more n k inPrint (.compute op a (← operand false))
      | none => return a

/-- A term with a sign before it, or without one. -/
def signed : Nat → Bool → Bool → Parser Term
  | 0, _, _ => unexpected
  | n + 1, inPrint, assigns => do
    if ← takeMark "!" then return .negation (← signed n inPrint false)
    else if ← takeMark "-" then return .minus (← signed n inPrint false)
    else if ← takeMark "+" then return .plus (← signed n inPrint false)
    else piped n (← power n inPrint assigns)

/-- A term whose output may be read. -/
def piped : Nat → Term → Parser Term
  | 0, a => return a
  | n + 1, a => do
    match (← get).rest with
    | (.mark "|", _) :: (.word "getline", _) :: _ =>
      take
      take
      piped n (.read (.command a) (← into n))
    | _ => return a

/-- What a record is read into, if that is said. -/
def into : Nat → Parser (Option Target)
  | 0 => return none
  | n + 1 => do
    let isTarget ← match ← peek with
      | .name _ => pure true
      | .mark "$" => pure true
      | _ => pure false
    if isTarget then return some (← target n) else return none

/-- A power. -/
def power : Nat → Bool → Bool → Parser Term
  | 0, _, _ => unexpected
  | n + 1, inPrint, assigns => do
    let a ← stepped n inPrint assigns
    if ← takeMark "^" then return .compute .power a (← signed n inPrint false) else return a

/-- A term that may be counted up or down. -/
def stepped : Nat → Bool → Bool → Parser Term
  | 0, _, _ => unexpected
  | n + 1, inPrint, assigns => do
    match ← peek with
    | .mark "++" => take; return .step (← target n) true true
    | .mark "--" => take; return .step (← target n) false true
    | .name _ => reached n inPrint assigns (← target n)
    | .mark "$" => reached n inPrint assigns (← target n)
    | _ => primary n

/-- What is done with a target. -/
def reached : Nat → Bool → Bool → Target → Parser Term
  | 0, _, _, p => return .fetch p
  | n + 1, inPrint, assigns, p => do
    if ← takeMark "++" then return .step p true false
    else if ← takeMark "--" then return .step p false false
    else
      let op ← if assigns then takeOf assignments else pure none
      match op with
      | none => return .fetch p
      | some op =>
        let v ← term n inPrint
        return match op with
          | none => .assign p v
          | some op => .change op p v

/-- A target. -/
def target : Nat → Parser Target
  | 0 => unexpected
  | n + 1 => do
    if ← takeMark "$" then
      match ← peek with
      | .mark "-" => take; return .field (.minus (← stepped n false false))
      | .mark "+" => take; return .field (← stepped n false false)
      | .mark "!" => take; return .field (.negation (← stepped n false false))
      | .mark "++" => return .field (← stepped n false false)
      | .mark "--" => return .field (← stepped n false false)
      | .mark "$" => return .field (.fetch (← target n))
      | .name _ => return .field (.fetch (← target n))
      | _ => return .field (← primary n)
    else
      let name ← name
      let s ← slot name
      if ← takeMark "[" then
        markKind name s true
        let keys ← terms n
        expect "]"
        return .element s keys
      else
        if !((← isMark ",") || (← isMark ")")) then markKind name s false
        return .variable s

/-- Terms between commas. -/
def terms : Nat → Parser (List Term)
  | 0 => unexpected
  | n + 1 => do
    let a ← term n false
    if ← takeOperator "," then return a :: (← terms n) else return [a]

/-- A term that stands by itself. -/
def primary : Nat → Parser Term
  | 0 => unexpected
  | n + 1 => do
    match ← peek with
    | .number x _ => take; return .number x
    | .text t => take; return .text t
    | .pattern t => take; return .pattern (← pattern t)
    | .mark "(" =>
      expect "("
      let all ← terms n
      expect ")"
      match all with
      | [a] => return a
      | keys =>
        if ← isWord "in" then
          take
          return .isIn keys (← tableSlot (← name))
        else unexpected
    | .called f =>
      let spot ← place
      take
      let all ← arguments n
      match (← get).functions.lookup f with
      | some arity =>
        if arity < all.length then note ("too many arguments in call to ".toList ++ f)
      | none => modify fun s ↦ { s with called := (f, spot, all.length) :: s.called }
      return .call f all
    | .word "getline" =>
      take
      let p ← into n
      if ← takeMark "<" then return .read (.file (← power n false false)) p
      else return .read .usual p
    | .word t =>
      match Routine.table.lookup t with
      | none => unexpected
      | some (r, least, most) =>
        take
        if r = .split then return ← splitting n
        if r = .replaceFirst ∨ r = .replaceAll then return ← replacing n r
        let given ← if r = .length ∧ !(← isMark "(") then pure [] else arguments n
        if r = .length ∧ most < given.length then
          fail "syntax error at or near ,".toList
        if given.length < least ∨ most < given.length then
          note ("wrong number of arguments in call to ".toList ++ t.toList)
        match r, given with
        | .find, [a, p] => return .routine r [a, ← asPattern p]
        | r, given => return .routine r given
    | _ => unexpected

/-- A text that is cut into a table, behind the word for it. -/
def splitting : Nat → Parser Term
  | 0 => unexpected
  | n + 1 => do
    expect "("
    let t ← term n false
    expect ","
    lines
    let table ← tableSlot (← name)
    let separators ← if ← takeOperator "," then
        match ← term n false with
        | .text t => if t.length ≤ 1 then pure [.text t] else do pure [← asPattern (.text t)]
        | t => pure [t]
      else pure []
    expect ")"
    return .routine .split (t :: .fetch (.variable table) :: separators)

/-- A replacement of matches, behind the word for it. -/
def replacing : Nat → Routine → Parser Term
  | 0, _ => unexpected
  | n + 1, r => do
    expect "("
    let p ← asPattern (← term n false)
    expect ","
    lines
    let replacement ← term n false
    let targets ← if ← takeOperator "," then do pure [.fetch (← target n)] else pure []
    expect ")"
    return .routine r (p :: replacement :: targets)

/-- The arguments of a call. -/
def arguments : Nat → Parser (List Term)
  | 0 => unexpected
  | n + 1 => do
    expect "("
    if ← takeMark ")" then return []
    let all ← terms n
    expect ")"
    return all

end

/-! ### Statements -/

/-- Whether a statement without braces ends here. -/
def isAtEnd : Parser Bool := do
  match ← peek with
  | .line => return true
  | .finish => return true
  | .mark t => return t = ";" || t = "\x7d"
  | _ => return false

/-- Takes the end of a statement. -/
def statementEnd : Parser Unit := do
  match ← peek with
  | .line => take
  | .mark ";" => take
  | .mark "\x7d" => return
  | .finish => if 0 < (← get).braces then unexpected
  | _ => unexpected

/-- The marks that lead output somewhere. -/
def outlets : List (String × Outlet) := [(">", .over), (">>", .behind), ("|", .command)]

/-- Whether what is printed ends here, or is led somewhere. -/
def printEnds : Parser Bool := do
  match ← peek with
  | .mark t => return (outlets.lookup t).isSome || (← isAtEnd)
  | _ => isAtEnd

/-- Terms that are printed, without parentheses around them. -/
def printed (n : Nat) : Nat → Parser (List Term)
  | 0 => unexpected
  | k + 1 => do
    let a ← term n true
    if ← takeOperator "," then return a :: (← printed n k) else return [a]

/-- What is printed. All of it may stand in parentheses. -/
def printedAll (n : Nat) : Parser (List Term) := do
  if ← printEnds then return []
  let start ← get
  let grouped : Parser (Option (List Term)) := do
    expect "("
    let all ← terms n
    expect ")"
    return if ← printEnds then some all else none
  match (grouped.run).run start with
  | (.ok (some all), s) =>
    set s
    return all
  | _ => printed n n

/-- Where what is printed is led to. -/
def outlet (n : Nat) : Parser (Option (Outlet × Term)) := do
  match ← takeOf outlets with
  | none => return none
  | some o => return some (o, ← term n true)

/-- A statement that stands by itself, without its end. -/
def simple (n : Nat) : Parser Statement := do
  let s ← get
  let optional : Parser (Option Term) := do
    if ← isAtEnd then return none else return some (← term n false)
  match ← peek with
  | .word "print" => take; return .print false (← printedAll n) (← outlet n)
  | .word "printf" =>
    take
    let all ← printedAll n
    if all.isEmpty then note "no arguments in call to printf".toList
    return .print true all (← outlet n)
  | .word "break" =>
    if s.loops = 0 then note "break statement outside of loop".toList
    take
    return .leave
  | .word "continue" =>
    if s.loops = 0 then note "continue statement outside of loop".toList
    take
    return .skip
  | .word "next" =>
    if !s.inRules ∧ !s.inFunction then note "improper use of next".toList
    take
    return .nextRecord
  | .word "nextfile" =>
    if !s.inRules ∧ !s.inFunction then note "improper use of nextfile".toList
    take
    return .nextInput
  | .word "exit" => take; return .exit (← optional)
  | .word "return" =>
    if !s.inFunction then note "return outside function body".toList
    take
    return .giveBack (← optional)
  | .word "delete" =>
    take
    let table ← tableSlot (← name)
    if ← takeMark "[" then
      let keys ← terms n
      expect "]"
      return .erase table keys
    else return .erase table []
  | _ => return .alone (← term n false)

/-- A statement within a loop. -/
def inLoop (body : Parser Statement) : Parser Statement := do
  modify fun s ↦ { s with loops := s.loops + 1 }
  let found ← body
  modify fun s ↦ { s with loops := s.loops - 1 }
  return found

/-- Passes over signs up to the end of a statement, which a brace that closes ends as well. -/
def skipStatement : Nat → Parser Unit
  | 0 => throw ()
  | n + 1 => do
    match ← peek with
    | .line => take
    | .mark ";" => take
    | .mark "\x7d" => return
    | .finish => throw ()
    | _ =>
      if !(← takeMark "\x7b" <||> takeMark "(" <||> takeMark ")") then take
      skipStatement n

/-- Reads a statement. Where that fails, it is passed over. -/
def recovering (read : Parser Statement) : Parser Statement := do
  let before ← get
  tryCatch read fun () ↦ do
    skipStatement (← get).rest.length
    modify fun s ↦ { s with parens := 0, loops := before.loops }
    return .nothing

mutual

/-- A statement. -/
def statement : Nat → Parser Statement
  | 0 => unexpected
  | n + 1 => recovering do
    let condition : Parser Term := do
      expect "("
      let c ← term n false
      expect ")"
      return c
    match ← peek with
    | .mark "\x7b" => block n
    | .mark ";" => take; return .nothing
    | .word "if" =>
      take
      let c ← condition
      lines
      let a ← statement n
      let before ← get
      lines
      if ← isWord "else" then
        take
        lines
        return .choice c a (← statement n)
      else
        set before
        return .choice c a .nothing
    | .word "while" =>
      take
      let c ← condition
      if ← takeMark ";" then return .loop c .nothing
      lines
      return .loop c (← inLoop (statement n))
    | .word "do" =>
      take
      lines
      let body ← inLoop (statement n)
      gaps
      if !(← isWord "while") then unexpected
      take
      let c ← condition
      statementEnd
      return .atLeastOnce body c
    | .word "for" =>
      take
      expect "("
      match (← get).rest with
      | (.name key, _) :: (.word "in", _) :: (.name table, _) :: (.mark ")", _) :: _ =>
        let p ← slot key
        for _ in [0, 1, 2] do take
        let t ← tableSlot table
        expect ")"
        lines
        return .each (.variable p) t (← inLoop (statement n))
      | _ =>
        let start ← if ← isMark ";" then pure .nothing else simple n
        expect ";"
        lines
        let c ← if ← isMark ";" then pure none else some <$> term n false
        expect ";"
        lines
        let next ← if ← isMark ")" then pure .nothing else simple n
        expect ")"
        if ← takeMark ";" then return .count start c next .nothing
        lines
        return .count start c next (← inLoop (statement n))
    | _ =>
      let s ← simple n
      statementEnd
      return s

/-- Statements up to the brace that ends them. -/
def statements : Nat → Parser (List Statement)
  | 0 => unexpected
  | n + 1 => do
    gaps
    if ← isMark "\x7d" then return []
    let s ← statement n
    return s :: (← statements n)

/-- Statements between braces. -/
def block : Nat → Parser Statement
  | 0 => unexpected
  | n + 1 => do
    expect "\x7b"
    let all ← statements n
    expect "\x7d"
    return .group all

end

/-! ### Scripts -/

/-- The names of parameters. -/
def parameterNames : Nat → Parser (List Text)
  | 0 => unexpected
  | n + 1 => do
    let t ← name
    if ← takeOperator "," then return t :: (← parameterNames n) else return [t]

/-- A function, behind the word for it. -/
def procedure (n : Nat) : Parser (Text × Procedure) := do
  let s ← get
  let f ← match s.rest with
    | (.called f, _) :: _ => pure f
    | (.name f, _) :: _ => pure f
    | _ => unexpected
  if (s.functions.lookup f).isSome then note ("redefinition of ".toList ++ f)
  if s.names.contains f then fail ("illegal reference to variable ".toList ++ f)
  take
  expect "("
  let parameters ← if ← isMark ")" then pure [] else parameterNames n
  expect ")"
  lines
  match parameters.find? fun p ↦ 1 < parameters.count p with
  | some p => note (p ++ " is duplicated in argument list".toList)
  | none => pure ()
  let isGlobal (e : Slot × Bool) : Bool := match e.1 with
    | .global _ => true
    | .own _ => false
  modify fun s ↦ { s with
    parameters, inFunction := true, kinds := s.kinds.filter isGlobal
    functions := (f, parameters.length) :: s.functions }
  let body ← block n
  return (f, ⟨parameters.length, body⟩)

/-- A rule without its first statements, or with them. -/
def rule (size : Nat) : Parser (Condition × Statement) := do
  modify fun s ↦ { s with inRules := true }
  let isBlock ← isMark "\x7b"
  let condition ← if isBlock then pure Condition.always
    else do
      let a ← term size false
      if ← takeOperator "," then pure (.between a (← term size false)) else pure (.when a)
  if ← isMark "\x7b" then return (condition, ← block size)
  match ← peek with
  | .line => take
  | .mark ";" => take
  | _ => unexpected
  return (condition, .print false [] none)

/-- An item of a script, added to what there is of it. -/
def item (size : Nat) (s : RuleScript) : Parser RuleScript := do
  match ← peek with
  | .word "BEGIN" =>
    take
    return { s with first := s.first ++ [← block size] }
  | .word "END" =>
    take
    return { s with last := s.last ++ [← block size] }
  | .word "function" =>
    take
    return { s with procedures := s.procedures ++ [← procedure size] }
  | _ => return { s with rules := s.rules.push (← rule size) }

/-- Passes over signs up to a block, and over the block. -/
def skipItem (size : Nat) : Nat → Parser Unit
  | 0 => throw ()
  | n + 1 => do
    match ← peek with
    | .finish => throw ()
    | .mark "\x7b" => do
      let _ ← block size
    | _ =>
      take
      skipItem size n

/-- All rules and functions. -/
def items (size : Nat) : Nat → RuleScript → Parser RuleScript
  | 0, s => return s
  | n + 1, s => do
    gaps
    match ← peek with
    | .finish => return s
    | next =>
      let isExtra : Bool := (next matches .mark "\x7d") && (← get).braces = 0
      if isExtra then
        note "extra '\x7d'".toList
        take
        let _ ← takeMark ";"
        if (← peek) matches .line then note "syntax error at or near end of line".toList
        return ← items size n s
      let result ← tryCatch (do return some (← item size s)) fun () ↦ return none
      modify fun s ↦ { s with parameters := [], inFunction := false, inRules := false }
      match result with
      | some s => items size n s
      | none =>
        if (← peek) matches .finish then return s
        modify fun s ↦ { s with parens := 0, loops := 0, inFunction := true }
        skipItem size (← get).rest.length
        modify fun s ↦ { s with inFunction := false }
        items size n s

/-- A script with its functions and the names of its variables. -/
def script (size : Nat) : Parser RuleScript := do
  let s ← items size size ⟨[], #[], [], [], []⟩
  let final ← place
  if (← get).faults.isEmpty then
    for (f, spot, count) in (← get).called do
      match s.procedures.lookup f with
      | none => noteAt final ("function ".toList ++ f ++ " never defined".toList)
      | some p =>
        if p.arity < count then noteAt spot ("too many arguments in call to ".toList ++ f)
  return { s with names := (← get).names }

end Parser

/-- How many faults of a script are told. -/
def maxFaults : Nat := 5

/-- Reads a script of several sources, some of which have names. -/
def read (sources : List (Option Text × Text)) : Except (List RuleFault) RuleScript :=
  let all := signsOf none sources
  let start : Parsing := { rest := all }
  let (result, after) := ((Parser.script (20 * all.length + 100)).run).run start
  match result, after.faults with
  | .ok s, [] => .ok s
  | _, faults => .error (faults.reverse.take maxFaults)

end RuleScript

end CommandScript.Shell
