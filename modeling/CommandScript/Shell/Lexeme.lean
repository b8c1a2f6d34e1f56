import CommandScript.Shell.Word
import CommandScript.Text.Lines

/-!
# Shell lexemes

A source is cut into **lexemes**: words, operators and the signs of redirections. Where a command
line within a word ends is only known by reading it, so that the functions here are given something
that passes over one. What is wrong with a source is known by a flaw and by what is left of the
source where it is noticed.
-/
namespace CommandScript.Shell

/-- The language of a shell. -/
inductive Dialect where
  /-- The language with arrays, conditions between brackets and much else. -/
  | extended
  /-- The language of the standard. -/
  | standard
  deriving DecidableEq, Repr

/-- The **rules** by which a source is read. -/
structure Rules where
  /-- The language. -/
  dialect : Dialect
  /-- Whether words may hold choices between parentheses. -/
  choices : Bool
  /-- The texts that stand for the first words of commands. -/
  aliases : List (Text × Text)

/-- What is wrong with a source. -/
inductive Flaw where
  /-- Something stands where it cannot, and something else may be needed there. -/
  | unexpected (token : Text) (needed : Option String)
  /-- The source ends, and something may be needed there. -/
  | ending (needed : Option String)
  /-- Something is opened that is never closed. -/
  | unclosed (closing : Char)
  /-- A command line within a word is never closed. -/
  | unclosedCommand
  /-- Something is wrong in a condition, about which some things are said. -/
  | condition (remarks : List Text) (atEnd : Bool)
  /-- Something is wrong near a text. -/
  | near (t : Text)
  /-- A loop lacks an expression. -/
  | lacksExpression (source : Text)
  /-- The variable of a loop has no name that a variable can have. -/
  | loopName
  /-- A function has no name that a function can have. -/
  | functionName
  deriving DecidableEq, Repr

/-- A **syntax fault**. -/
structure SyntaxFault where
  /-- What is wrong. -/
  flaw : Flaw
  /-- What is left of the source where it is noticed. -/
  place : Text
  /-- The status that it gives a shell. -/
  status : Nat
  deriving DecidableEq, Repr

/-- What passes over a command line up to the parenthesis that closes it. -/
abbrev Skip := Text → Except SyntaxFault Text

/-- The character that a redirection is for, by its number or by the variable that gets one. -/
inductive Handle where
  /-- A channel by its number. -/
  | number (n : Nat)
  /-- A new channel, whose number a variable gets. -/
  | fresh (name : Text)
  deriving DecidableEq, Repr

/-- A **lexeme** of a source. -/
inductive Lexeme where
  /-- A word. -/
  | word (w : Word)
  /-- An operator; a line feed is one. -/
  | operator (t : Text)
  /-- The sign of a redirection, perhaps with a channel before it. -/
  | redirect (handle : Option Handle) (sign : Text)
  /-- The end of the source. -/
  | ending
  deriving DecidableEq, Repr

/-- How words are cut. -/
inductive WordMode where
  /-- As arguments. -/
  | argument
  /-- As arguments that may be assignments. -/
  | assignment
  /-- As the pattern of a condition, which may hold choices. -/
  | pattern
  /-- As a regular expression. -/
  | expression
  deriving DecidableEq, Repr

/-- Whether a character ends a word that is not quoted. -/
def endsWord (c : Char) : Bool := isShellBlank c || "\n;&|()<>".toList.contains c

/-! ### What closes -/

/-- A fault at a place. -/
def flawed {α : Type} (flaw : Flaw) (place : Text) : Except SyntaxFault α :=
  .error ⟨flaw, place, 2⟩

/-- What stands up to the bracket that closes a nesting depth, and what follows it. Brackets between
quotes and after a backslash do not count. -/
def closeNested (opening closing : Char) : Option Char → Nat → Text → Option (Text × Text)
  | _, _, [] => none
  | quote, depth, [c] =>
    if quote.isNone ∧ depth = 0 ∧ c = closing then some ([], []) else none
  | quote, depth, c :: d :: rest =>
    let keep (quote : Option Char) (depth : Nat) :=
      (closeNested opening closing quote depth (d :: rest)).map fun (t, r) ↦ (c :: t, r)
    if c = '\\' ∧ quote ≠ some Text.singleQuote then
      (closeNested opening closing quote depth rest).map fun (t, r) ↦ (c :: d :: t, r)
    else if quote = some c then keep none depth
    else if quote.isSome then keep quote depth
    else if c = Text.singleQuote ∨ c = Text.doubleQuote ∨ c = '\x60' then keep (some c) depth
    else if c = closing then
      match depth with
      | 0 => some ([], d :: rest)
      | depth + 1 => keep none depth
    else if c = opening then keep none (depth + 1)
    else keep none depth

/-- The quote that a text leaves open, if it does so. -/
def openQuote? (t : Text) : Option Char :=
  let step (found : Option Char × Bool) (c : Char) : Option Char × Bool :=
    match found with
    | (quote, true) => (quote, false)
    | (none, false) =>
      if c = '\\' then (none, true)
      else if c = Text.singleQuote ∨ c = Text.doubleQuote ∨ c = '\x60' then (some c, false)
      else (none, false)
    | (some quote, false) =>
      if c = quote then (none, false) else (some quote, c = '\\' && quote != Text.singleQuote)
  (t.foldl step (none, false)).1

/-- What stands up to a character, and what follows it. -/
def closeAt (c : Char) (t : Text) : Option (Text × Text) :=
  match t.dropWhile (· != c) with
  | [] => none
  | _ :: after => some (t.takeWhile (· != c), after)

/-- What stands up to a character that no backslash escapes, and what follows it. -/
def closeEscaped (closing : Char) : Text → Option (Text × Text)
  | [] => none
  | [c] => if c = closing then some ([], []) else none
  | c :: d :: rest =>
    if c = closing then some ([], d :: rest)
    else if c = '\\' then (closeEscaped closing rest).map fun (t, r) ↦ (c :: d :: t, r)
    else (closeEscaped closing (d :: rest)).map fun (t, r) ↦ (c :: t, r)

/-- The source of a command line that stands between back quotes. Within double quotes, those may
be escaped too. -/
def unescapeSource (quoted : Bool) : Text → Text
  | '\\' :: c :: rest =>
    if c = '\\' ∨ c = '$' ∨ c = '\x60' ∨ (quoted ∧ c = Text.doubleQuote) then
      c :: unescapeSource quoted rest
    else '\\' :: c :: unescapeSource quoted rest
  | c :: rest => c :: unescapeSource quoted rest
  | [] => []

/-- What was found in a text, or else the flaw that something is never closed. -/
def closedBy {α : Type} (closing : Char) (t : Text) (found : Option α) : Except SyntaxFault α :=
  match found with
  | some a => .ok a
  | none => flawed (.unclosed closing) t

/-- What was found after an opening sign, where a flaw at the end of the text is one of what has
been opened. -/
def openedAt {α : Type} (t : Text) (found : Except SyntaxFault α) : Except SyntaxFault α :=
  found.mapError fun f ↦ if f.place.isEmpty then { f with place := t } else f

/-- The part of a text before a rest of it. -/
def before (t rest : Text) : Text := t.take (t.length - rest.length)

/-! ### Words -/

/-- The characters that are parameters of the shell by themselves. -/
def parameterSigns : Text := "?$#!@*-0123456789".toList

section Words

variable (rules : Rules) (skip : Skip)

/-- A piece in front of pieces that have been read. -/
def pushRead (p : Piece) (r : Except SyntaxFault (List Piece × Text)) :
    Except SyntaxFault (List Piece × Text) :=
  r.map fun (ps, after) ↦ (pushPiece p ps, after)

/-- The command line that a parenthesis after a dollar sign opens, and what follows it. -/
def lexCommand (t : Text) : Except SyntaxFault (Text × Text) :=
  match skip t with
  | .ok after => .ok ((before t after).dropLast, after)
  | .error f => .error f

/-- What opens after a dollar sign and a parenthesis: an arithmetic expression where the first one
of two parentheses is closed together with the other, or else a command line. -/
def lexOpened (quoted : Bool) (t : Text) : Except SyntaxFault (Piece × Text) :=
  let command := (lexCommand skip t).map fun (source, after) ↦ (Piece.output quoted source, after)
  match t with
  | '(' :: inner =>
    match closeNested '(' ')' none 0 t, closeNested '(' ')' none 0 inner with
    | some _, some (source, ')' :: after) => .ok (.arithmetic quoted source, after)
    | some _, some _ => command
    | _, _ => flawed (.unclosed ((openQuote? t).getD ')')) t
  | _ => command

mutual

/-- What a dollar sign opens, given what follows it. -/
def lexDollar (quoted : Bool) : Nat → Text → Except SyntaxFault (Piece × Text)
  | 0, t => .ok (.literal quoted ['$'], t)
  | n + 1, t =>
    let extended := rules.dialect = .extended
    match t with
    | '(' :: rest => lexOpened skip quoted rest
    | '\x7b' :: rest =>
      match openedAt t (closeBrace quoted n rest) with
      | .ok after => .ok (.parameter quoted (before rest after).dropLast, after)
      | .error f => .error f
    | c :: rest =>
      if c = '[' ∧ extended then
        (closedBy ']' t (closeNested '[' ']' none 0 rest)).map
          fun (source, after) ↦ (.arithmetic quoted source, after)
      else if c = Text.singleQuote ∧ !quoted ∧ extended then
        (closedBy c t (closeEscaped c rest)).map fun (inside, after) ↦
          let t := unescapeQuoted (inside.length + 1) inside
          (.literal true (t.takeWhile (· != '\x00')), after)
      else if c = Text.doubleQuote ∧ !quoted ∧ extended then .ok (.literal false [], c :: rest)
      else if opensName c then
        .ok (.parameter quoted (c :: rest.takeWhile withinName), rest.dropWhile withinName)
      else if parameterSigns.contains c then .ok (.parameter quoted [c], rest)
      else .ok (.literal quoted ['$'], c :: rest)
    | [] => .ok (.literal quoted ['$'], [])

/-- What follows the brace that closes a parameter. -/
def closeBrace (quoted : Bool) : Nat → Text → Except SyntaxFault Text
  | 0, t => flawed (.unclosed '\x7d') t
  | _, [] => flawed (.unclosed '\x7d') []
  | n + 1, c :: rest =>
    if c = '\x7d' then .ok rest
    else if c = '\\' then closeBrace quoted n (rest.drop 1)
    else if c = Text.singleQuote ∧ (!quoted ∨ rules.dialect = .extended) then
      match closedBy c (c :: rest) (closeAt c rest) with
      | .ok (_, after) => closeBrace quoted n after
      | .error f => .error f
    else if c = Text.doubleQuote then
      match openedAt (c :: rest) (lexDouble (some c) false n rest) with
      | .ok (_, after) => closeBrace quoted n after
      | .error f => .error f
    else if c = '$' then
      match lexDollar quoted n rest with
      | .ok (_, after) => closeBrace quoted n after
      | .error f => .error f
    else if c = '\x60' then
      match closedBy c (c :: rest) (closeEscaped c rest) with
      | .ok (_, after) => closeBrace quoted n after
      | .error f => .error f
    else closeBrace quoted n rest

/-- The pieces up to a closing double quote, and what follows it; or, without a quote to close them,
those of a whole text, from which double quotes may be dropped. -/
def lexDouble (closing : Option Char) (drops : Bool) :
    Nat → Text → Except SyntaxFault (List Piece × Text)
  | 0, t => flawed (.unclosed Text.doubleQuote) t
  | _, [] =>
    if closing.isSome then flawed (.unclosed Text.doubleQuote) [] else .ok ([], [])
  | n + 1, c :: rest =>
    if some c = closing then .ok ([.literal true []], rest)
    else if drops ∧ c = Text.doubleQuote then lexDouble closing drops n rest
    else if c = '\\' then
      match rest with
      | [] =>
        if closing.isSome then flawed (.unclosed Text.doubleQuote) []
        else .ok ([.literal true [c]], [])
      | '\n' :: after => lexDouble closing drops n after
      | d :: after =>
        if d = '$' ∨ d = '\x60' ∨ some d = closing ∨ d = '\\' ∨ (drops ∧ d = Text.doubleQuote) then
          pushRead (.literal true [d]) (lexDouble closing drops n after)
        else pushRead (.literal true [c, d]) (lexDouble closing drops n after)
    else if c = '$' then
      match lexDollar true n rest with
      | .ok (p, after) => pushRead p (lexDouble closing drops n after)
      | .error f => .error f
    else if c = '\x60' then
      match closedBy c (c :: rest) (closeEscaped c rest) with
      | .ok (source, after) =>
        pushRead (.output true (unescapeSource true source)) (lexDouble closing drops n after)
      | .error f => .error f
    else pushRead (.literal true [c]) (lexDouble closing drops n rest)

end

/-- Whether a text opens with a command line in the place of a file. -/
def opensProcess (t : Text) : Bool :=
  rules.dialect = .extended && match t with
    | '<' :: '(' :: _ => true
    | '>' :: '(' :: _ => true
    | _ => false

/-- Whether a character is a part of a word at a depth of parentheses, although it would end one. -/
def staysWithin (mode : WordMode) (depth : Nat) (c : Char) : Bool :=
  0 < depth || (mode = .expression && c = '|')

/-- The pieces of a word from its first character on, within a depth of parentheses, and what
follows the word. -/
def lexPieces (mode : WordMode) :
    Nat → Nat → Text → Except SyntaxFault (List Piece × Text)
  | _, 0, t => .ok ([], t)
  | depth, _, [] => if depth = 0 then .ok ([], []) else flawed (.unclosed ')') []
  | depth, n + 1, c :: rest =>
    let opens := mode = .expression && c = '('
    if opens then pushRead (.literal false [c]) (lexPieces mode (depth + 1) n rest)
    else if opensProcess rules (c :: rest) then
      match lexCommand skip (rest.drop 1) with
      | .ok (source, after) =>
        pushRead (.process (c = '>') source) (lexPieces mode depth n after)
      | .error f => .error f
    else if endsWord c ∧ !staysWithin mode depth c then .ok ([], c :: rest)
    else if 0 < depth ∧ c = ')' then
      pushRead (.literal false [c]) (lexPieces mode (depth - 1) n rest)
    else if 0 < depth ∧ c = '(' then
      pushRead (.literal false [c]) (lexPieces mode (depth + 1) n rest)
    else if (rules.choices ∨ mode = .pattern) ∧ rest.head? = some '(' ∧
        "?*+@!".toList.contains c then
      pushRead (.literal false [c, '(']) (lexPieces mode (depth + 1) n (rest.drop 1))
    else if c = '\\' then
      match rest with
      | [] => .ok ([.literal true ['\\']], [])
      | ['\n'] => .ok ([.literal true ['\\']], [])
      | '\n' :: after => lexPieces mode depth n after
      | d :: after => pushRead (.literal true [d]) (lexPieces mode depth n after)
    else if c = Text.singleQuote then
      match closedBy c (c :: rest) (closeAt c rest) with
      | .ok (inside, after) =>
        pushRead (.literal true inside) (lexPieces mode depth n after)
      | .error f => .error f
    else if c = Text.doubleQuote then
      match openedAt (c :: rest) (lexDouble rules skip (some c) false (rest.length + 1) rest) with
      | .ok (inside, after) =>
        (lexPieces mode depth n after).map fun (ps, after) ↦ (inside.foldr pushPiece ps, after)
      | .error f => .error { f with place := c :: rest }
    else if c = '$' then
      match lexDollar rules skip false (rest.length + 1) rest with
      | .ok (p, after) => pushRead p (lexPieces mode depth n after)
      | .error f => .error f
    else if c = '\x60' then
      match closedBy c (c :: rest) (closeEscaped c rest) with
      | .ok (source, after) =>
        pushRead (.output false (unescapeSource false source)) (lexPieces mode depth n after)
      | .error f => .error f
    else pushRead (.literal false [c]) (lexPieces mode depth n rest)

/-- The pieces of a whole text as if it stood between double quotes. Double quotes within it are
kept or dropped, and nothing is never closed. -/
def lexQuoted (drops : Bool) (t : Text) : List Piece :=
  match lexDouble rules skip none drops (t.length + 1) t with
  | .ok (ps, _) => ps
  | .error _ => [.literal true t]

/-- The pieces of a whole text in which no character ends the word, and nothing is never closed. -/
def lexOpen : Nat → Text → List Piece
  | 0, _ => []
  | _, [] => []
  | n + 1, c :: rest =>
    if endsWord c ∧ !opensProcess rules (c :: rest) then
      pushPiece (.literal false [c]) (lexOpen n rest)
    else match lexPieces rules skip .argument 0 (rest.length + 2) (c :: rest) with
      | .ok (ps, after) => ps.foldr pushPiece (lexOpen n after)
      | .error _ => [.literal true (c :: rest)]

/-! ### Assignments -/

/-- The target of the assignment that a text opens with, and what follows its sign. -/
def lexTarget? (t : Text) : Option (Target × Text) :=
  let name := t.takeWhile withinName
  let (subscript, after) : Option Text × Text := match t.drop name.length with
    | '[' :: rest =>
      match closeNested '[' ']' none 0 rest with
      | some (source, after) => (some source, after)
      | none => (none, '[' :: rest)
    | rest => (none, rest)
  if !(name.head?.map opensName).getD false then none
  else match after with
    | '=' :: value =>
      if rules.dialect = .standard ∧ subscript.isSome then none
      else some (⟨name, subscript, false⟩, value)
    | '+' :: '=' :: value =>
      if rules.dialect = .standard then none else some (⟨name, subscript, true⟩, value)
    | _ => none

/-- Whether a text opens with the name of an array and a subscript that is not closed. -/
def opensSubscript (t : Text) : Bool :=
  let name := t.takeWhile withinName
  isVariableName name && match t.drop name.length with
    | '[' :: rest => (closeNested '[' ']' none 0 rest).isNone
    | _ => false

/-- What is left of the members of an array after the parenthesis that closes them. -/
def closeMembers : Nat → Text → Except SyntaxFault Text
  | 0, t => flawed (.unclosed ')') t
  | _, [] => .error ⟨.unclosed ')', [], 1⟩
  | n + 1, c :: rest =>
    if isShellBlank c ∨ c = '\n' then closeMembers n rest
    else if c = ')' then .ok rest
    else if c = '#' then closeMembers n (rest.dropWhile (· != '\n'))
    else
      let start := match c :: rest with
        | '[' :: inner =>
          match closeNested '[' ']' none 0 inner with
          | some (_, after) => after
          | none => c :: rest
        | t => t
      match lexPieces rules skip .argument 0 (start.length + 1) start with
      | .error f => .error { f with status := 1 }
      | .ok (_, after) =>
        if after.length < (c :: rest).length then closeMembers n after
        else .error ⟨.unexpected [c] none, rest, 1⟩

/-- The word that a text opens with, and what follows it. Where assignments may stand, one to an
array may have blanks in its subscript, and members between parentheses. -/
def lexWord (mode : WordMode) (t : Text) : Except SyntaxFault (Word × Text) :=
  let plain : Except SyntaxFault (Word × Text) :=
    (lexPieces rules skip mode 0 (t.length + 1) t).map fun (ps, after) ↦
      (⟨ps, before t after, none⟩, after)
  if mode != .assignment then plain
  else if rules.dialect = .extended ∧ opensSubscript t then flawed (.unclosed ']') t
  else match lexTarget? rules t with
    | none => plain
    | some (target, value) =>
      let sign := before t value
      match value, rules.dialect with
      | '(' :: inner, .extended =>
        match closeMembers rules skip (inner.length + 1) inner with
        | .ok after => .ok (⟨[.literal true (before t after)], before t after,
            some ⟨target, .members (before inner after).dropLast⟩⟩, after)
        | .error f => .error (match f.flaw with
            | .unclosed _ => { f with place := t }
            | _ => f)
      | value, _ =>
        match lexPieces rules skip .argument 0 (value.length + 1) value with
        | .error f => .error f
        | .ok (ps, after) =>
          let whole := match lexPieces rules skip .argument 0 (sign.length + 1) sign with
            | .ok (head, []) => head.foldr pushPiece ps
            | _ => pushPiece (.literal false sign) ps
          .ok (⟨whole, before t after, some ⟨target, .value ps⟩⟩, after)

/-! ### Lexemes -/

/-- The operators of a language, longer ones first. -/
def operatorsOf : Dialect → List Text
  | .extended =>
    ["&&", "||", ";;&", ";;", ";&", ";", "|&", "&", "|", "(", ")", "\n"].map String.toList
  | .standard => ["&&", "||", ";;", ";", "&", "|", "(", ")", "\n"].map String.toList

/-- The signs of the redirections of a language, longer ones first. -/
def redirectionsOf : Dialect → List Text
  | .extended => ["&>>", "&>", "<<<", "<<-", "<<", "<>", "<&", "<", ">>", ">&", ">|", ">"].map
      String.toList
  | .standard => ["<<-", "<<", "<>", "<&", "<", ">>", ">&", ">|", ">"].map String.toList

/-- The channel that stands directly before the sign of a redirection, and what follows it. -/
def lexHandle? (t : Text) : Option (Handle × Text) :=
  let isSign (t : Text) : Bool :=
    (t.head? = some '<' || t.head? = some '>') && !opensProcess rules t
  let digits := t.takeWhile Char.isDigit
  if !digits.isEmpty then
    let after := t.drop digits.length
    if isSign after then some (.number (digits.foldl (fun n c ↦ n * 10 + (c.toNat - 48)) 0), after)
    else none
  else match t with
    | '\x7b' :: rest =>
      let name := rest.takeWhile withinName
      match rest.drop name.length with
      | '\x7d' :: after =>
        if isVariableName name ∧ isSign after ∧ rules.dialect = .extended then
          some (.fresh name, after)
        else none
      | _ => none
    | _ => none

/-- The next lexeme of a text, and what follows it. Blanks, comments and joined lines before it are
passed over. -/
def lexNext (mode : WordMode) : Nat → Text → Except SyntaxFault (Lexeme × Text)
  | 0, t => .ok (.ending, t)
  | _, [] => .ok (.ending, [])
  | n + 1, c :: rest =>
    let t := c :: rest
    if isShellBlank c then lexNext mode n rest
    else if c = '\\' ∧ rest.head? = some '\n' ∧ 1 < rest.length then lexNext mode n (rest.drop 1)
    else if c = '#' then lexNext mode n (rest.dropWhile (· != '\n'))
    else if opensProcess rules t ∨ (mode = .expression ∧ (c = '(' ∨ c = '|')) then
      (lexPieces rules skip mode 0 (t.length + 1) t).map fun (ps, after) ↦
        (.word ⟨ps, before t after, none⟩, after)
    else
      let (handle, t') : Option Handle × Text := match lexHandle? rules t with
        | some (h, after) => (some h, after)
        | none => (none, t)
      match (redirectionsOf rules.dialect).findSome? fun sign ↦
          (Text.dropStart? sign t').map fun after ↦ (sign, after) with
      | some (sign, after) => .ok (.redirect handle sign, after)
      | none =>
        match (operatorsOf rules.dialect).findSome? fun o ↦
            (Text.dropStart? o t).map fun after ↦ (o, after) with
        | some (o, after) => .ok (.operator o, after)
        | none => (lexWord rules skip mode t).map fun (w, after) ↦ (.word w, after)

end Words

/-- A lexeme as a message shows it. -/
def Lexeme.shown : Lexeme → Text
  | .word w => w.raw
  | .operator o => if o = ['\n'] then "newline".toList else o
  | .redirect handle sign => (match handle with
      | some (.number n) => Shell.shown n
      | _ => []) ++ sign
  | .ending => "newline".toList

/-- The word that a lexeme is when it is written without quotes, as a keyword would be. -/
def Lexeme.keyword? : Lexeme → Option Text
  | .word w => w.plain?
  | _ => none

end CommandScript.Shell
