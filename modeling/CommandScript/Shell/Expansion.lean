import CommandScript.Shell.Assign
import CommandScript.Shell.Brace
import CommandScript.Shell.Parameter
import CommandScript.Shell.PathPattern
import CommandScript.Shell.Subshell

/-!
# Expansion

**Expansion** turns words into fields. Literals and quoted values stay in one field, values without
quotes are split, and a field that is a pattern of paths becomes the paths that it matches. Where
one text is needed, nothing is split, and several values are joined. Words within parameters are
expanded in the same way, up to a depth.
-/
namespace CommandScript.Shell

/-! ### Home directories -/

/-- The home directories of users. -/
def homes : List (String × String) := [
  ("root", "/root"), ("daemon", "/usr/sbin"), ("bin", "/bin"), ("sys", "/dev"), ("sync", "/bin"),
  ("games", "/usr/games"), ("man", "/var/cache/man"), ("lp", "/var/spool/lpd"),
  ("mail", "/var/mail"), ("news", "/var/spool/news"), ("proxy", "/bin"), ("www-data", "/var/www"),
  ("backup", "/var/backups"), ("nobody", "/nonexistent")]

/-- The directory that a name after a tilde stands for. -/
def homeOf (s : State) (name : Text) : Option Text :=
  if name.isEmpty then
    (s.value? "HOME".toList).or (if s.isStandard then none else some "/root".toList)
  else if name = ['+'] ∧ !s.isStandard then some s.directory
  else if name = ['-'] ∧ !s.isStandard then s.value? "OLDPWD".toList
  else (homes.lookup (String.ofList name)).map String.toList

/-- The pieces of a literal that may name a home directory at its start, and after its colons where
it is the value of an assignment. -/
def tildePieces (s : State) (assigned atStart followed : Bool) (t : Text) : List Piece :=
  let parts := if assigned then Text.fields ':' t else [t]
  let last := parts.length - 1
  (parts.zipIdx.flatMap fun (part, i) ↦
    let joint : List Piece := if i = 0 then [] else [.literal false [':']]
    joint ++ match part with
      | '~' :: rest =>
        let name := rest.takeWhile (· != '/')
        let after := rest.drop name.length
        let isOpen := followed && i = last && after.isEmpty
        match if isOpen ∨ (i = 0 ∧ !atStart) then none else homeOf s name with
        | some home => [.literal true home, .literal false after]
        | none => [.literal false part]
      | _ => [.literal false part]).foldr pushPiece []

/-- The pieces of the value of an assignment with home directories in them. -/
def assignedTildes (s : State) : Bool → List Piece → List Piece
  | _, [] => []
  | atStart, p :: rest =>
    let after := assignedTildes s false rest
    match p with
    | .literal false t =>
      if t.contains '~' then
        (tildePieces s true atStart (!rest.isEmpty) t).foldr pushPiece after
      else p :: after
    | p => p :: after

/-- The pieces of a word with home directories in them. -/
def wordTildes (s : State) : List Piece → List Piece
  | .literal false ('~' :: t) :: rest =>
    (tildePieces s false true (!rest.isEmpty) ('~' :: t)).foldr pushPiece rest
  | .literal false t :: rest =>
    let name := t.takeWhile withinName
    match t.drop name.length with
    | '=' :: value =>
      if isVariableName name ∧ !s.isStandard then
        pushPiece (.literal false (name ++ ['=']))
          (assignedTildes s true (if value.isEmpty then rest else .literal false value :: rest))
      else .literal false t :: rest
    | _ => .literal false t :: rest
  | pieces => pieces

/-! ### Values -/

/-- The characters that split a value which stands without quotes. -/
def State.separators (s : State) : Text := (s.value? "IFS".toList).getD " \t\n".toList

/-- Values joined by the first separator. -/
def State.joinValues (s : State) (values : List Text) : Text :=
  (s.separators.take 1).intercalate values

/-- What is known where something is expanded. -/
structure Spot where
  /-- Whether everything is to be one text. -/
  single : Bool
  /-- The text that messages show. -/
  whole : Text
  deriving DecidableEq, Repr

/-- The segments of one value. -/
def valueSegments (quoted : Bool) (value : Text) : List Segment :=
  [if quoted then .quoted value else .value value]

/-- The segments of several values. -/
def listSegments (s : State) (single quoted joins : Bool) (values : List Text) : List Segment :=
  if joins ∧ (quoted ∨ single) then valueSegments quoted (s.joinValues values)
  else if single then valueSegments quoted ([' '].intercalate values)
  else (values.map fun v ↦ if quoted then Segment.quoted v else .value v).intersperse .boundary

/-- Leaves because of a source between braces that means nothing. -/
def badSubstitution {α : Type} (whole : Text) : Act α := do
  if (← get).isStandard then refuse .aborts "Bad substitution".toList
  else refuse .drops (whole ++ ": bad substitution".toList)

/-- Leaves where a parameter without a value may not be used. -/
def unbound {α : Type} (shown : Text) : Act α := do
  if (← get).isStandard then refuse .aborts (shown ++ ": parameter not set".toList)
  else refuse .aborts (shown ++ ": unbound variable".toList)

/-- The prompt that a text spells. -/
def promptText (s : State) : Text → Text
  | '\\' :: c :: rest =>
    let part : Text := match c with
      | 'u' => "root".toList
      | 'h' => "localhost".toList
      | 'H' => "localhost".toList
      | 'w' => s.directory
      | 'W' => (s.directory.reverse.takeWhile (· != '/')).reverse
      | '$' => ['#']
      | 's' => "bash".toList
      | 'v' => "5.2".toList
      | 'n' => ['\n']
      | 'e' => ['\x1B']
      | 'a' => ['\x07']
      | '\\' => ['\\']
      | '[' => []
      | ']' => []
      | c => ['\\', c]
    part ++ promptText s rest
  | c :: rest => c :: promptText s rest
  | [] => []

section Parameters

variable (inner : Spot → List Piece → Act (List Segment))

/-- The rules by which the words within words are read, and what passes over command lines. -/
def innerRules : Act (Rules × Skip) := do
  let rules := (← get).rules
  return (rules, Parser.skipKnown rules)

/-- The text of a source that is expanded as if between double quotes. -/
def expandText (source : Text) : Act Text := do
  let (rules, skip) ← innerRules
  return joined (← inner ⟨true, source⟩ (lexQuoted rules skip true source))

/-- The segments of a source that is expanded as it stands. -/
def expandOpen (single : Bool) (source : Text) : Act (List Segment) := do
  let (rules, skip) ← innerRules
  inner ⟨single, source⟩ (wordTildes (← get) (lexOpen rules skip (source.length + 1) source))

/-- The pattern of a marked text, with the rules of the shell for letters and for choices, which may
be known always. -/
def patternOf (always : Bool) (m : Marked) : Act Pattern := do
  let s ← get
  let p := Pattern.of (always || s.hasFeature "extglob") m
  return if s.hasFeature "nocasematch" then p.eitherCase else p

/-- The pattern that a source spells. -/
def expandPattern (source : Text) : Act Pattern := do
  patternOf false (markedSegments (← expandOpen inner true source))

/-- The number that a source spells. -/
def expandNumber (source : Text) : Act Int := do arithmetic (← expandText inner source)

/-- The segments of the word that stands for a value which lacks. -/
def expandFallback (single quoted : Bool) (word : Text) : Act (List Segment) := do
  if quoted then
    let (rules, skip) ← innerRules
    inner ⟨single, word⟩ (lexQuoted rules skip true word)
  else
    return (← expandOpen inner single word).map fun
      | .plain t => .value t
      | segment => segment

/-- The text of a subscript. -/
def expandSubscript (source : Text) : Act Text := do
  let (rules, skip) ← innerRules
  return joined (← inner ⟨true, source⟩ (lexOpen rules skip (source.length + 1) source))

/-- The variable of an array, and its name. -/
def arrayOf (name : Text) : Act (Text × Option Variable) := do
  let s ← get
  let name := (State.splitReference (s.referred name)).1
  return (name, (s.computed? name).or (s.stored? name))

/-- The value of a member of an array, for a subscript that has been expanded. -/
def memberValue (name subscript : Text) : Act (Option Text) := do
  let (_, v) ← arrayOf name
  if v.any Variable.isMap then
    if subscript.isEmpty then complain (name ++ ": bad array subscript".toList)
    return (v.filter Variable.assigned).bind fun v ↦ v.content.member? (.text subscript)
  else
    let n ← arithmetic subscript
    let (_, v) ← arrayOf name
    let last := (((v.map fun v ↦ v.content.asList).getD []).map fun m ↦ (m.1 : Int)).foldl max (-1)
    let n := if n < 0 then last + 1 + n else n
    if n < 0 then
      complain (name ++ ": bad array subscript".toList)
      return none
    else return (v.filter Variable.assigned).bind fun v ↦ v.content.member? (.number n.toNat)

/-- The value of a form that stands for a single one. -/
def formValue (whole : Text) (f : ParameterForm) : Act (Option Text) := do
  match f.subscript with
  | none => lookup? f.name
  | some [] => badSubstitution whole
  | some source => memberValue f.name (← expandSubscript inner source)

/-! ### Operations -/

/-- What a replacement puts in the place of something that has been found. -/
def expandReplacement (quoted : Bool) (source : Text) : Act (Text → Text) := do
  let (rules, skip) ← innerRules
  let s ← get
  let pieces := lexOpen rules skip (source.length + 1) source
  let pieces := if quoted then pieces else wordTildes s pieces
  let m := (markedSegments (← inner ⟨true, source⟩ pieces)).wide
  return fun found ↦ replacementOf (s.hasFeature "patsub_replacement") found m

/-- The text of a variable as it can be given again. -/
def againText (t : Text) : Text := reusable t

/-- The assignment that gives a variable its value again. -/
def assignmentText (name : Text) (v : Option Variable) (value : Option Text) : Text :=
  let letters := (v.map Variable.letters).getD []
  let given := match value with
    | some t => '=' :: againText t
    | none => []
  if letters.isEmpty then if value.isSome then name ++ given else []
  else "declare -".toList ++ letters ++ ' ' :: name ++ given

/-- A value changed by an operation after an at sign. -/
def transformValue (whole : Text) (f : ParameterForm) (letter : Char) (value : Option Text) :
    Act Text := do
  let s ← get
  let t := value.getD []
  match letter with
  | 'Q' | 'K' | 'k' => return if value.isSome then againText t else []
  | 'E' => return unescapeQuoted (t.length + 1) t
  | 'P' => return promptText s t
  | 'U' => return narrow ((wide t).map capitalOf)
  | 'u' => return narrow (changeLetters capitalOf false none (wide t))
  | 'L' => return narrow ((wide t).map smallOf)
  | 'a' => return ((← arrayOf f.name).2.map Variable.letters).getD []
  | 'A' => return assignmentText f.name (← arrayOf f.name).2 value
  | _ => if value.isSome then refuse .aborts (whole ++ ": bad substitution".toList) else return []

/-- A value changed as an operation says. -/
def changeValue (quoted : Bool) (whole : Text) (f : ParameterForm) (value : Option Text) :
    Act Text := do
  let t := wide (value.getD [])
  let shorten (lengths : Pattern → List Nat) (cut : Nat → Text) (longest : Bool)
      (word : Text) : Act Text := do
    let found := lengths (← expandPattern inner word)
    return narrow (((if longest then found.getLast? else found.head?).map cut).getD t)
  let letters (change : Char → Char) (all : Bool) (word : Text) : Act Text := do
    let p ← if word.isEmpty then pure none else do pure (some (← expandPattern inner word))
    return narrow (changeLetters change all p t)
  match f.operation with
  | '#' :: '#' :: word => shorten (·.startLengths t) t.drop true word
  | '#' :: word => shorten (·.startLengths t) t.drop false word
  | '%' :: '%' :: word => shorten (·.endLengths t) t.take true word
  | '%' :: word => shorten (·.endLengths t) t.take false word
  | '/' :: rest =>
    let (how, rest) := match rest with
      | '/' :: rest => ('/', rest)
      | '#' :: rest => ('#', rest)
      | '%' :: rest => ('%', rest)
      | rest => (' ', rest)
    let (word, source) := splitReplacement none rest
    let p ← expandPattern inner word
    let replacement ← expandReplacement inner quoted (source.getD [])
    if how = '#' ∨ how = '%' then return narrow (replaceEnd p (how = '#') replacement t)
    else if word.isEmpty then return narrow t
    else return narrow (replaceMatches p (how = '/') replacement t)
  | '^' :: '^' :: word => letters capitalOf true word
  | '^' :: word => letters capitalOf false word
  | ',' :: ',' :: word => letters smallOf true word
  | ',' :: word => letters smallOf false word
  | '~' :: '~' :: word => letters otherCase true word
  | '~' :: word => letters otherCase false word
  | ['@', letter] => transformValue whole f letter value
  | ':' :: range =>
    if range.isEmpty then badSubstitution whole
    let (offset, length) := splitRange 0 0 range
    let start ← expandNumber inner offset
    let size ← match length with
      | some l => do pure (some (← expandNumber inner l))
      | none => pure none
    match slice t start size with
    | some part => return narrow part
    | none => refuse .drops (length.getD [] ++ ": substring expression < 0".toList)
  | _ => badSubstitution whole

/-- Whether an operation of the extended language is used in the other one. -/
def isForeign (s : State) (f : ParameterForm) : Bool :=
  s.isStandard && (f.refers || f.subscript.isSome || match f.operation with
    | [] => false
    | '#' :: _ => false
    | '%' :: _ => false
    | operation => (fallbackOf? operation).isNone)

/-! ### Several values -/

/-- The members that a part of an array has, from an offset on and up to a count. -/
def sliceMembers (f : ParameterForm) (members : List (Text × Text)) (range : Text) :
    Act (List Text) := do
  let s ← get
  let (offset, length) := splitRange 0 0 range
  let start ← expandNumber inner offset
  let size ← match length with
    | some l => do pure (some (← expandNumber inner l))
    | none => pure none
  let isPlain := !f.isWhole
  let isMap := (← arrayOf f.name).2.any Variable.isMap
  let numbered : List (Int × Text) :=
    if isPlain then (s.called :: s.arguments).zipIdx.map fun (t, i) ↦ ((i : Int), t)
    else if isMap then
      members.zipIdx.map fun (m, i) ↦ ((i : Int), m.2)
    else members.map fun m ↦ ((Text.digitsValue m.1 : Int), m.2)
  let last := (numbered.map (·.1)).foldl max (-1)
  let start := if start < 0 then last + 1 + start else start
  if start < 0 then return []
  let found := (numbered.filter fun m ↦ start ≤ m.1).map (·.2)
  match size with
  | none => return found
  | some n =>
    if n < 0 then
      refuse .drops (length.getD [] ++ ": substring expression < 0".toList)
    else return found.take n.toNat

/-- The keys and values of a form that stands for several values. -/
def formMembers (f : ParameterForm) : Act (List (Text × Text)) := do
  let s ← get
  if f.isWhole then
    return ((← arrayOf f.name).2.map Variable.members).getD []
  else return s.arguments.zipIdx.map fun (t, i) ↦ (Shell.shown (i + 1), t)

/-- The values of a form that stands for several of them. -/
def formValues (quoted : Bool) (whole : Text) (f : ParameterForm) : Act (List Text) := do
  let members ← formMembers f
  let values := members.map (·.2)
  let name := f.name
  match f.operation with
  | [] => return values
  | ':' :: range =>
    if range.isEmpty then badSubstitution whole else sliceMembers inner f members range
  | ['@', 'K'] =>
    return [[' '].intercalate (members.flatMap fun m ↦
      [Variable.shownKey m.1, doubleQuoted m.2])]
  | ['@', 'k'] => return members.flatMap fun m ↦ [m.1, m.2]
  | ['@', 'A'] =>
    match (← arrayOf name).2 with
    | some v =>
      return if v.isArray then [v.declaration "declare".toList name]
        else [assignmentText name (some v) v.value?]
    | none =>
      return if f.isWhole then [] else
        ["set -- ".toList ++ [' '].intercalate (values.map againText)]
  | _ =>
    values.mapM fun value ↦ changeValue inner quoted whole f (some value)

/-- What stands for a form with several values. -/
def expandSeveral (spot : Spot) (quoted : Bool) (f : ParameterForm) : Act (List Segment) := do
  let s ← get
  let all (values : List Text) : List Segment :=
    listSegments s spot.single quoted f.joins values
  if f.refers ∧ !f.isWhole then
    let names := s.everyVariable.filter fun e ↦ f.name.isPrefixOf e.1 && e.2.assigned
    return all (names.map (·.1))
  else if f.refers ∧ f.operation.isEmpty then return all ((← formMembers f).map (·.1))
  else if f.counts then return valueSegments quoted (Shell.shown (← formMembers f).length)
  else match fallbackOf? f.operation with
    | some d =>
      let values := (← formMembers f).map (·.2)
      let lacks := values.isEmpty || (d.orEmpty && (s.joinValues values).isEmpty)
      if d.sign = '+' then
        if lacks then return [] else expandFallback inner spot.single quoted d.word
      else if lacks then
        if d.sign = '?' then
          let words ← expandText inner d.word
          refuse .aborts (f.name ++ ": ".toList ++ (if words.isEmpty then
            "parameter null or not set".toList else words))
        else expandFallback inner spot.single quoted d.word
      else return all values
    | none =>
      if s.isOn .nounset ∧ f.isWhole ∧ (← arrayOf f.name).2.isNone then
        refuse .drops (f.name ++ ": unbound variable".toList)
      return all (← formValues inner quoted spot.whole f)

/-! ### One value -/

/-- What stands for a form whose value may lack. -/
def expandDefault (spot : Spot) (quoted : Bool) (f : ParameterForm) (d : Fallback) :
    Act (List Segment) := do
  let value? ← formValue inner spot.whole f
  let given := value?.filter fun v ↦ !d.orEmpty || !v.isEmpty
  let other := expandFallback inner spot.single quoted d.word
  if d.sign = '+' then if given.isSome then other else return []
  else if let some v := given then return valueSegments quoted v
  else if d.sign = '-' then other
  else if d.sign = '=' then
    if !(f.name.head?.map opensName).getD false then
      if (← get).isStandard then refuse .aborts (f.name ++ ": bad variable name".toList)
      refuse .drops (f.shown ++ ": cannot assign in this way".toList)
    let value := joined (← expandFallback inner true quoted d.word)
    let subscript ← f.subscript.mapM (expandSubscript inner)
    assignTo f.name subscript false value
    return valueSegments quoted ((← formValue inner spot.whole f).getD [])
  else
    let (rules, skip) ← innerRules
    let words := joined (← inner ⟨true, d.word⟩ (if quoted then lexQuoted rules skip true d.word
      else lexOpen rules skip (d.word.length + 1) d.word))
    let s ← get
    let words := if !words.isEmpty then words
      else if s.isStandard then
        (if d.orEmpty then "parameter not set or null" else "parameter not set").toList
      else if d.orEmpty then "parameter null or not set".toList
      else "parameter not set".toList
    refuse .aborts (f.name ++ ": ".toList ++ words)

/-- The form that is meant by one that refers to it: its value names a parameter. -/
def referredForm (spot : Spot) (f : ParameterForm) : Act (Option ParameterForm) := do
  let s ← get
  let isReference := (s.stored? f.name).any fun v ↦ v.attributes.reference
  match ← formValue inner spot.whole { f with operation := [] } with
  | none =>
    if isVariableName f.name ∧ f.operation.isEmpty then
      refuse .drops (f.name ++ ": invalid indirect expansion".toList)
    else return none
  | some t =>
    if isReference then return none
    let target := ParameterForm.plain false false t
    if !target.name.isEmpty ∧ target.operation.isEmpty then
      return some { target with operation := f.operation }
    else refuse .drops (t ++ ": invalid variable name".toList)

/-- What stands for a form with a single value. -/
def expandSingle (spot : Spot) (quoted : Bool) (f : ParameterForm) : Act (List Segment) := do
  match fallbackOf? f.operation with
  | some d => expandDefault inner spot quoted f d
  | none =>
    let value ← formValue inner spot.whole f
    if value.isNone ∧ (← get).isOn .nounset ∧ f.operation.head? ≠ some '@' then
      unbound f.shown
    if f.counts then
      return valueSegments quoted (Shell.shown (wide (value.getD [])).length)
    else if f.operation.isEmpty then
      return match value with
        | some v => valueSegments quoted v
        | none => valueSegments quoted []
    else return valueSegments quoted (← changeValue inner quoted spot.whole f value)

/-- What stands for a parameter, given its source. -/
def expandParameter (spot : Spot) (quoted : Bool) (source : Text) : Act (List Segment) := do
  let f := ParameterForm.of source
  let s ← get
  let keepsSelf := f.refers && !f.isWhole &&
    (s.stored? f.name).any fun v ↦ v.attributes.reference
  if f.name.isEmpty ∨ (f.counts ∧ !f.operation.isEmpty) ∨ isForeign s f then
    badSubstitution spot.whole
  else if keepsSelf then
    return valueSegments quoted (((s.stored? f.name).bind Variable.value?).getD [])
  else if f.isList then expandSeveral inner spot quoted f
  else if f.refers then
    match ← referredForm inner spot f with
    | none => return valueSegments quoted []
    | some target =>
      if target.isList then expandSeveral inner spot quoted target
      else expandSingle inner spot quoted target
  else expandSingle inner spot quoted f

end Parameters

/-! ### Words -/

section Words

variable (run : Runner)

/-- Whether a piece stands for several quoted values. -/
def isQuotedList : Piece → Bool
  | .parameter true source => (ParameterForm.of source).isList
  | _ => false

/-- Expands one piece of a word, given what expands the words within it. -/
def expandPiece (inner : Spot → List Piece → Act (List Segment)) (spot : Spot) (p : Piece) :
    Act (List Segment) := do
  match p with
  | .literal true t => return [.quoted t]
  | .literal false t => return [.plain t]
  | .parameter quoted source => expandParameter inner spot quoted source
  | .output quoted source =>
    let t ← capture run source
    if t.contains '\x00' then
      complain "warning: command substitution: ignored null byte in input".toList
    return valueSegments quoted (dropLineFeeds (t.filter (· != '\x00')))
  | .arithmetic quoted source =>
    return valueSegments quoted (Text.ofInt (← arithmetic (← expandText inner source)))
  | .process reads source => return [.quoted (← processFile run reads source)]

/-- Expands pieces one after the other. The end of a quoted part is no field where nothing but
several values stands in it, and there are none. -/
def expandEach (inner : Spot → List Piece → Act (List Segment)) (spot : Spot) :
    Bool → List Piece → Act (List Segment)
  | _, [] => return []
  | drops, p :: rest => do
    if drops ∧ p = .literal true [] then expandEach inner spot false rest
    else
      let found ← expandPiece run inner spot p
      return found ++ (← expandEach inner spot (isQuotedList p && found.isEmpty) rest)

/-- Expands pieces, up to a depth of words within words. -/
def expandPieces : Nat → Spot → List Piece → Act (List Segment)
  | 0, _, _ => refuse .aborts "maximum expansion depth exceeded".toList
  | n + 1, spot, pieces => expandEach run (expandPieces n) spot false pieces

/-- The greatest depth of words within words. -/
def maxWordDepth : Nat := 64

/-- The text that a message shows for a word: what is between its quotes, if they surround it. -/
def shownWhole (raw : Text) : Text :=
  match raw with
  | '"' :: rest =>
    if rest.getLast? = some '"' ∧ !rest.dropLast.contains '"' then rest.dropLast else raw
  | _ => raw

/-- The segments of a word that is to be one text. -/
def expandWhole (raw : Text) (pieces : List Piece) : Act (List Segment) :=
  expandPieces run maxWordDepth ⟨true, shownWhole raw⟩ pieces

/-- The text of pieces that are not split. -/
def expandToText (raw : Text) (pieces : List Piece) : Act Text := do
  return joined (← expandWhole run raw (wordTildes (← get) pieces))

/-- The text of a word that is not split. -/
def wordText (w : Word) : Act Text := expandToText run w.raw w.pieces

/-- The text of a word whose signs of patterns are marked. -/
def wordMarked (w : Word) : Act Marked := do
  return markedSegments (← expandWhole run w.raw (wordTildes (← get) w.pieces))

/-- The fields of one word. -/
def wordFields (w : Word) : Act (List Text) := do
  let s ← get
  let words := if s.isOn .braceexpand ∧ !s.isStandard then bracedWords w.pieces else [w.pieces]
  let found ← words.mapM fun pieces ↦ do
    let segments ← expandPieces run maxWordDepth ⟨false, shownWhole w.raw⟩
      (wordTildes (← get) pieces)
    let fields := fieldsOf (← get).separators segments
    return (← fields.mapM matchingPaths).flatten
  return found.flatten

/-- Expands words to fields. -/
def expandWords (words : List Word) : Act (List Text) := do
  return (← words.mapM (wordFields run)).flatten

/-- The text of a subscript in an assignment. -/
def subscriptText (source : Text) : Act Text :=
  expandSubscript (expandPieces run maxWordDepth) source

/-- The members that a source between parentheses gives to an array. -/
def expandMembers (source : Text) : Act (List Member) := do
  let found ← (memberWords (← get).rules source).mapM fun w ↦ do
    match w.assignment with
    | some ⟨⟨[], some subscript, adds⟩, .value pieces⟩ =>
      let key ← subscriptText run subscript
      let s ← get
      let value := joined (← expandWhole run w.raw (assignedTildes s true pieces))
      return [Member.placed key adds value]
    | _ => return (← wordFields run { w with assignment := none }).map Member.next
  return found.flatten

/-- Makes an assignment, and gives its text as a trace shows it. -/
def performAssignment (w : Word) (a : Assignment) : Act Text := do
  let subscript ← a.target.subscript.mapM (subscriptText run)
  let sign : Text := if a.target.adds then "+=".toList else ['=']
  let place := a.target.name ++ (match subscript with
    | some t => '[' :: t ++ [']']
    | none => [])
  match a.given with
  | .members source =>
    let members ← expandMembers run source
    assignMembers a.target.name a.target.adds members
    return place ++ sign ++ '(' :: source ++ [')']
  | .value pieces =>
    let value := joined (← expandWhole run w.raw (assignedTildes (← get) true pieces))
    if subscript = some [] ∧ (← arrayOf a.target.name).2.any Variable.isMap then
      refuse .drops (a.target.name ++ '[' :: (a.target.subscript.getD []) ++
        "]: bad array subscript".toList)
    assignTo a.target.name subscript a.target.adds value
    return place ++ sign ++ value

end Words

end CommandScript.Shell
