import CommandScript.Shell.Builtin.Usage
import CommandScript.Shell.PathPattern
import CommandScript.Shell.Printer

/-!
# Names of commands

What a name means as that of a command: an alias, a word of the language, a function, a command of
the shell, or a program that is found in one of the directories of programs. Commands tell about
that, and change it for aliases and for the programs that are remembered.
-/
namespace CommandScript.Shell

/-! ### Meanings -/

/-- What a name means as that of a command. -/
inductive Meaning where
  /-- Other words. -/
  | alias (value : Text)
  /-- A word of the language. -/
  | keyword
  /-- A function. -/
  | function (f : Function)
  /-- A command of the shell. -/
  | builtin
  /-- A program, by its path, which may be remembered. -/
  | program (path : Text) (isKnown : Bool)

/-- The words of the language that both dialects have. -/
def commonKeywords : List String := [
  "if", "then", "else", "elif", "fi", "for", "while", "until", "do", "done", "case", "esac", "in",
  "\x7b", "\x7d", "!"]

/-- The words of the extended language only. -/
def extendedKeywords : List String := ["function", "select", "time", "[[", "]]", "coproc"]

/-- Whether a path leads to a file that can be run. -/
def isRunnable (files : FileStore) (path : Text) : Bool :=
  match (files.findNumber (pathOf path)).toOption.bind files.node? with
  | some node => node.isFile && node.mode &&& 0o111 ≠ 0
  | none => false

/-- The paths in the directories of programs at which there is something of a name. -/
def programPlaces (path name : Text) : List Text :=
  if name.isEmpty then []
  else if name.contains '/' then [name]
  else (Text.fields ':' path).map fun directory ↦
    if directory.isEmpty then "./".toList ++ name else directory ++ '/' :: name

/-- The paths of the programs of a name, the one that runs first. -/
def State.programPaths (s : State) (name : Text) : List Text :=
  (programPlaces (s.valueOf "PATH") name).filter (isRunnable s.files)

/-- Whether the directories of programs are other ones for the time of one command. -/
def State.looksElsewhere (s : State) : Bool :=
  s.scopes.any fun scope ↦
    scope.kind = .command && (scope.bindings.lookup "PATH".toList).isSome

/-- The path of a program that is remembered. -/
def State.rememberedPath? (s : State) (name : Text) : Option Text :=
  if s.isStandard ∨ s.looksElsewhere then none
  else ((s.hashed.lookup name).map Known.path).filter fun path ↦
    !s.hasFeature "checkhash" || isRunnable s.files path

/-- What a name means as that of a command, what counts most first. -/
def State.meanings (s : State) (name : Text) : List Meaning :=
  let known := String.ofList name
  let isKeyword := commonKeywords.contains known ||
    (!s.isStandard && extendedKeywords.contains known)
  let isTracked := s.isStandard && (s.hashed.lookup name).isSome
  (s.rules.aliases.lookup name).toList.map .alias ++
    (if isKeyword then [.keyword] else []) ++
    (s.functions.lookup name).toList.map .function ++
    (if s.hasCommand name then [.builtin] else []) ++
    (s.rememberedPath? name).toList.map (.program · true) ++
    (s.programPaths name).map (.program · isTracked)

/-- Whether a meaning is that of a function. -/
def Meaning.isFunction : Meaning → Bool
  | .function _ => true
  | _ => false

/-- Whether a meaning is a program that is remembered. -/
def Meaning.isRemembered : Meaning → Bool
  | .program _ isKnown => isKnown
  | _ => false

/-- The path of a program that a name means. -/
def Meaning.path? : Meaning → Option Text
  | .program path _ => some path
  | _ => none

/-- One word for a meaning. -/
def Meaning.kind : Meaning → String
  | .alias _ => "alias"
  | .keyword => "keyword"
  | .function _ => "function"
  | .builtin => "builtin"
  | .program _ _ => "file"

/-- What is said of a name with a meaning. -/
def Meaning.describe (standard : Bool) (name : Text) : Meaning → Text
  | .alias value =>
    if standard then name ++ " is an alias for ".toList ++ value ++ ['\n']
    else name ++ " is aliased to ".toList ++ citedText value ++ ['\n']
  | .keyword => name ++ " is a shell keyword\n".toList
  | .function f =>
    if standard then name ++ " is a shell function\n".toList
    else name ++ " is a function\n".toList ++ shownFunction name f.body
  | .builtin => name ++ " is a shell builtin\n".toList
  | .program path isKnown =>
    if isKnown ∧ standard then name ++ " is a tracked alias for ".toList ++ path ++ ['\n']
    else if isKnown ∧ !name.contains '/' then name ++ " is hashed (".toList ++ path ++ ")\n".toList
    else name ++ " is ".toList ++ path ++ ['\n']

/-- What a command line would need to have a meaning of a name. -/
def Meaning.short (name : Text) : Meaning → Text
  | .alias value => "alias ".toList ++ name ++ '=' :: singleQuoted value
  | .program path _ => path
  | _ => name

/-- Remembers a program under a name. -/
def rememberAs (name : Text) (known : Known) : Act Unit := modify fun s ↦
  { s with hashed := (name, known) :: s.hashed.filter fun e ↦ e.1 != name }

/-- Tells what names mean, all that they mean or what counts. A shell of the standard remembers the
programs. -/
def tellMeanings (command : String) (all : Bool) (choose : List Meaning → List Meaning)
    (show1 : Text → Meaning → Text) (silent : Bool) (names : List Text) : Act Nat := do
  let mut missing := 0
  for name in names do
    let s ← get
    let found := choose (s.meanings name)
    if found.isEmpty then
      missing := missing + 1
      if !silent then
        if s.isStandard then putLine (name ++ ": not found".toList)
        else complain (command.toList ++ ": ".toList ++ name ++ ": not found".toList)
    else for m in if all then found else found.take 1 do put (show1 name m)
    if let (true, some (.program path false)) := (s.isStandard, found.head?) then
      if !name.contains '/' then rememberAs name ⟨path, 0⟩
  return missing

/-- The command `type`. -/
def tellTypes : Utility := fun arguments ↦ do
  let s ← get
  if s.isStandard then
    let missing ← tellMeanings "type" false id (Meaning.describe true) false arguments
    return if missing = 0 then 0 else 127
  else withFlags "type" "afptP" "" arguments fun f ↦ do
    let choose (ms : List Meaning) : List Meaning :=
      let ms := if f.has 'a' then ms.filter (!·.isRemembered) else ms
      let ms := if f.has 'f' then ms.filter (!·.isFunction) else ms
      if f.has 'P' then ms.filter (·.path?.isSome)
      else if f.has 'p' then
        if f.has 'a' then ms.filter (·.path?.isSome) else ms
      else ms
    let show1 (name : Text) (m : Meaning) : Text :=
      if f.has 't' then m.kind.toList ++ ['\n']
      else if f.has 'p' ∨ f.has 'P' then ((m.path?.map (· ++ ['\n']))).getD []
      else m.describe false name
    let silent := f.has 't' || f.has 'p' || f.has 'P'
    let missing ← tellMeanings "type" (f.has 'a') choose show1 silent f.others
    return if missing = 0 then 0 else 1

/-- The commands `command -v` and `command -V`. -/
def tellCommands (long : Bool) (names : List Text) : Act Nat := do
  let s ← get
  let names := if s.isStandard then names.take 1 else names
  if long then
    let missing ← tellMeanings "command" false id (Meaning.describe s.isStandard) false names
    return if missing = 0 then 0 else if s.isStandard then 127
      else if missing < names.length then 0 else 1
  else
    let missing ← tellMeanings "command" false id
      (fun name m ↦ m.short name ++ ['\n']) true names
    return if missing < names.length ∨ names.isEmpty then 0 else if s.isStandard then 127 else 1

/-! ### Programs that are remembered -/

/-- The programs that are remembered, in the order in which they are listed. -/
def State.knownPrograms (s : State) : List (Text × Known) :=
  let bucket (name : Text) : Nat := (keyHash name).toNat % 256
  s.hashed.mergeSort fun a b ↦ bucket a.1 ≤ bucket b.1

/-- Forgets a program. -/
def forgetProgram (name : Text) : Act Unit := modify fun s ↦
  { s with hashed := s.hashed.filter fun e ↦ e.1 != name }

/-- The path at which a shell finds the program of a name, which is the name itself where there is
none. -/
def State.programPath (s : State) (name : Text) : Text := (s.programPaths name).headD name

/-- Remembers a program that is run by its name, if the shell remembers programs and looks for them
where it always does. -/
def rememberRun (name : Text) : Act Unit := do
  let s ← get
  if !name.contains '/' ∧ !s.looksElsewhere ∧ (s.isStandard ∨ s.isOn .hashall) then
    let hits := ((s.hashed.lookup name).map Known.hits).getD 0 + 1
    match (s.rememberedPath? name).or (s.programPaths name).head? with
    | some path => rememberAs name ⟨path, hits⟩
    | none => return

/-- Lists the programs that are remembered, as commands that remember them or with how often they
have been run. -/
def listKnown (asCommands : Bool) : Act Unit := do
  let s ← get
  if s.isStandard then
    let places := s.hashed.reverse.mergeSort fun a b ↦
      standardPlace 31 a.1 ≤ standardPlace 31 b.1
    put (ofLines (places.map fun e ↦ e.2.path))
  else if s.hashed.isEmpty then putLine "hash: hash table empty".toList
  else if asCommands then
    put (ofLines (s.knownPrograms.map fun e ↦
      "builtin hash -p ".toList ++ e.2.path ++ ' ' :: e.1))
  else put (ofLines ("hits\tcommand".toList :: s.knownPrograms.map fun e ↦
    padStart 4 (shown e.2.hits) ++ '\t' :: e.2.path))

/-- What `hash` does with one name: it forgets the program, tells its path, or remembers it, at a
path that is given or at the one where it is found. -/
def hashName (f : Flags) (name : Text) : Act Nat := do
  let s ← get
  let refuseName : Act Nat := failAs "hash" 1 (name ++ ": not found".toList)
  match s.hashed.lookup name, f.has 'd', f.has 't' with
  | some _, true, _ =>
    forgetProgram name
    return 0
  | some known, _, true =>
    putLine ((if 1 < f.others.length then name ++ ['\t'] else []) ++ known.path)
    return 0
  | none, true, _ => refuseName
  | none, _, true => refuseName
  | _, _, _ =>
    match f.value? 'p' with
    | some path =>
      if s.files.find (pathOf path) true matches .ok .directory then
        failAs "hash" 1 (path ++ ": Is a directory".toList)
      else
        rememberAs name ⟨path, 0⟩
        return 0
    | none =>
      if name.contains '/' ∨ s.hasCommand name ∨ (s.functions.lookup name).isSome then return 0
      else
        forgetProgram name
        match s.programPaths name with
        | path :: _ =>
          rememberAs name ⟨path, 0⟩
          return 0
        | [] => refuseName

/-- The command `hash`. -/
def hashPrograms : Utility := fun arguments ↦ do
  let s ← get
  if !s.isStandard ∧ !s.isOn .hashall then failAs "hash" 1 "hashing disabled".toList
  else withFlags "hash" "lrdt" "p" arguments fun f ↦ do
    if f.has 'r' then modify fun s ↦ { s with hashed := [] }
    if f.others.isEmpty then
      if !f.has 'r' then listKnown (f.has 'l')
      return 0
    else
      let mut status := 0
      for name in f.others do status := max status (← hashName f name)
      return status

/-! ### Aliases -/

/-- An alias as a list of them shows it. -/
def aliasLine (standard : Bool) (name value : Text) : Text :=
  (if standard then [] else "alias ".toList) ++ name ++ '=' :: singleQuoted value

/-- Whether a name can be that of an alias. -/
def isAliasName (name : Text) : Bool :=
  !name.isEmpty && !name.any fun c ↦ " \t\n;&|()<>$\x60\\\"'/=".toList.contains c

/-- The command `alias`. -/
def setAliases : Utility := fun arguments ↦ do
  let s ← get
  let withOptions (act : Flags → Act Nat) : Act Nat :=
    if s.isStandard then act ⟨[], [], arguments⟩ else withFlags "alias" "p" "" arguments act
  withOptions fun f ↦ do
    if f.others.isEmpty ∨ f.has 'p' then
      let all := if s.isStandard then
          s.aliases.reverse.mergeSort fun a b ↦ standardPlace 39 a.1 ≤ standardPlace 39 b.1
        else s.aliases.mergeSort fun a b ↦ decide (String.ofList a.1 ≤ String.ofList b.1)
      put (ofLines (all.map fun e ↦ aliasLine s.isStandard e.1 e.2))
    let mut status := 0
    for t in f.others do
      let name := t.takeWhile (· != '=')
      match t.drop name.length with
      | _ :: value =>
        if isAliasName name then
          modify fun s ↦ { s with aliases := (name, value) :: s.aliases.filter (·.1 != name) }
        else status ← failAs "alias" 1 (citedText name ++ ": invalid alias name".toList)
      | [] =>
        match (← get).aliases.lookup name with
        | some value => putLine (aliasLine s.isStandard name value)
        | none =>
          if s.isStandard then tellLine ("alias: ".toList ++ name ++ " not found".toList)
          else complain ("alias: ".toList ++ name ++ ": not found".toList)
          status := 1
    return status

/-- The command `unalias`. -/
def dropAliases : Utility := fun arguments ↦
  withFlags "unalias" "a" "" arguments fun f ↦ do
    let s ← get
    if f.has 'a' then
      set { s with aliases := [] }
      return 0
    else if f.others.isEmpty then
      if s.isStandard then return 0 else tellUsage "unalias"
    else
      let mut status := 0
      for name in f.others do
        if ((← get).aliases.lookup name).isSome then
          modify fun s ↦ { s with aliases := s.aliases.filter (·.1 != name) }
        else
          if s.isStandard then tellLine ("unalias: ".toList ++ name ++ " not found".toList)
          else complain ("unalias: ".toList ++ name ++ ": not found".toList)
          status := 1
      return status

end CommandScript.Shell
