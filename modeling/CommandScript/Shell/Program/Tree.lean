import CommandScript.Shell.Program.Place

/-!
# Programs that change directories

Files, directories and links are made, removed, copied, moved and given other permissions. What is
copied gets nodes of its own; what is moved or linked keeps its node under another name.
-/
namespace CommandScript.Shell

/-! ### Making and removing directories -/

/-- The words for a fault with a file whose name is quoted. -/
def quotedFault (before : String) (name : Text) (words : Text) : Text :=
  before.toList ++ quotedName name ++ ": ".toList ++ words

/-- The permission bits of a new directory. -/
def State.newDirectoryMode (s : State) : Nat := 0o777 - (0o777 &&& s.mask)

/-- The paths to a directory and to those above it, the outermost first. -/
def pathsDownTo (path : Text) : List Text :=
  let parts := (Text.fields '/' (withoutSlashes path))
  ((List.range parts.length).map fun i ↦ ['/'].intercalate (parts.take (i + 1))).filter
    (!·.isEmpty)

/-- Who has a permission: its owner, its group and others, as bits of one of them. -/
def reachOf (t : Text) : Nat :=
  t.foldl (fun n c ↦ n ||| match c with
    | 'u' => 0o4700
    | 'g' => 0o2070
    | 'o' => 0o1007
    | _ => 0o7777) 0

/-- The bits of letters for permissions, given the bits before. -/
def permissionBits (isDirectory : Bool) (old : Nat) (t : Text) : Nat :=
  let spread (n : Nat) : Nat := n * 0o111
  t.foldl (fun n c ↦ n ||| match c with
    | 'r' => 0o444
    | 'w' => 0o222
    | 'x' => 0o111
    | 'X' => if isDirectory ∨ old &&& 0o111 != 0 then 0o111 else 0
    | 's' => 0o6000
    | 't' => 0o1000
    | 'u' => spread (old / 64 % 8)
    | 'g' => spread (old / 8 % 8)
    | 'o' => spread (old % 8)
    | _ => 0) 0

/-- The permission bits after one clause of a change, which names who, what is done, and what. -/
def applyClause (mask : Nat) (isDirectory : Bool) : Nat → Text → Nat → Option Nat
  | 0, _, _ => none
  | n + 1, clause, old =>
    let who := clause.takeWhile fun c ↦ "ugoa".toList.contains c
    let reach := if who.isEmpty then 0o7777 - (mask &&& 0o777) else reachOf who
    let rec actions : Nat → Nat → Text → Option Nat
      | 0, _, _ => none
      | _, bits, [] => some bits
      | k + 1, bits, sign :: rest =>
        let letters := rest.takeWhile fun c ↦ "rwxXstugo".toList.contains c
        let given := permissionBits isDirectory bits letters &&& reach
        let after := rest.drop letters.length
        let kept := if isDirectory then 0o6000 else 0
        match sign with
        | '+' => actions k (bits ||| given) after
        | '-' => actions k (bits - (bits &&& given)) after
        | '=' => actions k ((bits - (bits &&& (if who.isEmpty then 0o7777 else reach) &&&
            (0o7777 - kept))) ||| given) after
        | _ => none
    let rest := clause.drop who.length
    if rest.isEmpty then none else actions (n + 1) old rest

/-- The permission bits after a change that a text describes. -/
def changeMode? (mask : Nat) (isDirectory : Bool) (t : Text) (old : Nat) : Option Nat :=
  if !t.isEmpty ∧ t.all fun c ↦ '0' ≤ c && c ≤ '7' then
    let n := t.foldl (fun n c ↦ n * 8 + (c.toNat - '0'.toNat)) 0
    if n ≤ 0o7777 then some n else none
  else
    let change (bits : Option Nat) (clause : Text) : Option Nat :=
      bits.bind (applyClause mask isDirectory (clause.length + 1) clause)
    (Text.fields ',' t).foldl change (some old)

/-- The program `mkdir`. -/
def makeDirectories : Utility :=
  let form : OptionForm := {
    name := "mkdir", plain := "pv", valued := "m"
    long := [("parents", 'p'), ("verbose", 'v'), ("mode", 'm')] }
  fun arguments ↦ form.choose arguments fun c ↦ do
    if c.others.isEmpty then return ← form.misuse "missing operand".toList
    let mode? := (c.value? 'm').map fun t ↦ changeMode? 0 true t 0o777
    if mode? = some none then
      return ← failOf "mkdir" 1 ("invalid mode ".toList ++ curled ((c.value? 'm').getD []))
    let mut status := 0
    for path in c.others do
      for part in if c.has 'p' then pathsDownTo path else [path] do
        let s ← get
        let isLast := part.length = (withoutSlashes path).length || !c.has 'p'
        let bits := if isLast then (mode?.getD none).getD s.newDirectoryMode else s.newDirectoryMode
        let refuse (f : FileFault) : Act Unit :=
          tellOf "mkdir"
            ("cannot create directory ".toList ++ curled part ++ ": ".toList ++ f.words)
        let made :=
          if part.isEmpty then .error .missing else s.files.make (pathOf part) .directory bits
        match made with
        | .ok files =>
          set { s with files }
          if c.has 'v' then putLine ("mkdir: created directory ".toList ++ quotedName part)
        | .error .taken =>
          let isThere := (s.files.find (pathOf part)).toOption = some .directory
          if !(c.has 'p' && isThere) then
            refuse (if c.has 'p' ∧ !isLast then .notDirectory else .taken)
            status := 1
            break
        | .error f =>
          refuse f
          status := 1
          break
    return status

/-- Whether there is anything in a directory. -/
def isEmptyDirectory (files : FileStore) (l : Location) : Bool :=
  !files.entries.any fun e ↦ FileStore.isBelow l e.1

/-- Removes an empty directory, or gives the words for why that is not possible. -/
def removeDirectory (path : Text) : Act (Except Text Unit) := do
  let s ← get
  match s.files.locate (pathOf path) (endsWithSlash path) with
  | .error f => return .error f.words
  | .ok l =>
    match s.files.content? l with
    | none => return .error FileFault.missing.words
    | some .directory =>
      if (pathOf path).names.isEmpty ∧ (pathOf path).root = .here then
        return .error "Invalid argument".toList
      if !isEmptyDirectory s.files l then return .error "Directory not empty".toList
      set { s with files := s.files.drop l }
      return .ok ()
    | some _ => return .error FileFault.notDirectory.words

/-- The program `rmdir`. -/
def removeDirectories : Utility :=
  let form : OptionForm := {
    name := "rmdir", plain := "pvi"
    long := [("ignore-fail-on-non-empty", 'i'), ("parents", 'p'), ("verbose", 'v')] }
  fun arguments ↦ form.choose arguments fun c ↦ do
    if c.others.isEmpty then return ← form.misuse "missing operand".toList
    let mut status := 0
    for path in c.others do
      for part in if c.has 'p' then (pathsDownTo path).reverse else [path] do
        if c.has 'v' then putLine ("rmdir: removing directory, ".toList ++ quotedName part)
        match ← removeDirectory part with
        | .ok () => pure ()
        | .error words =>
          if !(c.has 'i' && words = "Directory not empty".toList) then
            let action :=
              if part = path then "failed to remove " else "failed to remove directory "
            tellOf "rmdir" (quotedFault action part words)
            status := 1
          break
    return status

/-! ### Removing -/

/-- Asks whether something is to be done, and gives whether the input says so. -/
def asksFor (question : Text) : Act Bool := do
  tell question
  match ← peekAll 0 with
  | some t =>
    let line := (wholeLines '\n' t).headD []
    skipOctets 0 line.length
    return line.head? = some 'y' || line.head? = some 'Y'
  | none => return false

/-- What a node is called in questions and lists. -/
def kindName (node : FileStore.Node) : Text :=
  match node.content with
  | .file [] => "regular empty file".toList
  | .file _ => "regular file".toList
  | .directory => "directory".toList
  | .link _ => "symbolic link".toList
  | .device => "character special file".toList

/-- Removes what is at a location, with all below it, and tells what is removed. Gives whether all
could be removed. -/
def removeTree (asks verbose : Bool) : Nat → Location → Text → Act Bool
  | 0, _, _ => return false
  | n + 1, l, path => do
    let s ← get
    match (s.files.number? l).bind s.files.node? with
    | none => return true
    | some node =>
      if node.isDirectory then
        let names := namesIn s.files l
        if asks ∧ !names.isEmpty then
          if !(← asksFor ("rm: descend into directory ".toList ++ quotedName path ++
            "? ".toList)) then return true
        let mut isWhole := true
        for name in names do
          let path' := withoutSlashes path ++ '/' :: name
          if !(← removeTree asks verbose n (l ++ [wide name]) path') then isWhole := false
        let s ← get
        if !isEmptyDirectory s.files l then return isWhole
        if asks then
          if !(← asksFor ("rm: remove directory ".toList ++ quotedName path ++ "? ".toList)) then
            return true
        modify fun s ↦ { s with files := s.files.drop l }
        if verbose then putLine ("removed directory ".toList ++ quotedName path)
        return isWhole
      else
        if asks then
          if !(← asksFor ("rm: remove ".toList ++ kindName node ++ ' ' :: quotedName path ++
            "? ".toList)) then return true
        modify fun s ↦ { s with files := s.files.drop l }
        if verbose then putLine ("removed ".toList ++ quotedName path)
        return true

/-- The greatest depth of directories. -/
def maxTreeDepth : Nat := 200

/-- The program `rm`. -/
def removeFiles : Utility :=
  let form : OptionForm := {
    name := "rm", plain := "dfiIrRvxo"
    long := [("dir", 'd'), ("force", 'f'), ("recursive", 'r'), ("verbose", 'v'),
      ("interactive", 'i'), ("one-file-system", 'x'), ("no-preserve-root", 'o'),
      ("preserve-root", 'x')] }
  fun arguments ↦ form.choose arguments fun c ↦ do
    if c.others.isEmpty then
      return ← if c.has 'f' then pure 0 else form.misuse "missing operand".toList
    let isDeep := c.has 'r' || c.has 'R'
    let asks := c.last? "fi" = some 'i'
    let mut status := 0
    for path in c.others do
      let s ← get
      let refuse (words : Text) : Act Unit := tellOf "rm" (quotedFault "cannot remove " path words)
      let last := lastName path
      match if path.isEmpty then .error .missing
        else s.files.locate (pathOf path) (endsWithSlash path) with
      | .error f =>
        if !(c.has 'f' && (f = .missing || f = .notDirectory)) then
          refuse f.words
          status := 1
      | .ok l =>
        match s.files.content? l with
        | none =>
          if !c.has 'f' then
            refuse FileFault.missing.words
            status := 1
        | some .directory =>
          if isDeep then
            if last = ['.'] ∨ last = "..".toList then
              tellOf "rm" ("refusing to remove '.' or '..' directory: skipping ".toList ++
                quotedName path)
              status := 1
            else if l.isEmpty then
              tellOf "rm" "it is dangerous to operate recursively on '/'".toList
              tellOf "rm" "use --no-preserve-root to override this failsafe".toList
              status := 1
            else if !(← removeTree asks (c.has 'v') maxTreeDepth l path) then status := 1
          else if c.has 'd' then
            if isEmptyDirectory s.files l then
              let _ ← removeTree asks (c.has 'v') 1 l path
            else
              refuse "Directory not empty".toList
              status := 1
          else
            refuse FileFault.isDirectory.words
            status := 1
        | some _ =>
          if endsWithSlash path then
            refuse FileFault.notDirectory.words
            status := 1
          else
            let _ ← removeTree asks (c.has 'v') 1 l path
    return status

/-- The program `unlink`. -/
def removeName : Utility :=
  let form : OptionForm := { name := "unlink" }
  fun arguments ↦ form.choose arguments fun c ↦ do
    match c.others with
    | [] => form.misuse "missing operand".toList
    | [path] =>
      let s ← get
      let refuse (f : FileFault) : Act Nat :=
        failOf "unlink" 1 (quotedFault "cannot unlink " path f.words)
      match s.files.locate (pathOf path) false with
      | .error f => refuse f
      | .ok l =>
        match s.files.content? l with
        | none => refuse .missing
        | some .directory => refuse .isDirectory
        | some _ =>
          set { s with files := s.files.drop l }
          return 0
    | _ :: extra :: _ => form.misuse ("extra operand ".toList ++ curled extra)

/-! ### Copying and moving -/

/-- How something is copied or moved. -/
structure Transfer where
  /-- The name of the program. -/
  program : String
  /-- Whether directories are copied with what they hold. -/
  isDeep : Bool
  /-- Whether links are followed. -/
  follows : Bool
  /-- Whether permissions are kept. -/
  keeps : Bool
  /-- Whether what is there is replaced. -/
  replaces : Bool
  /-- Whether it is asked before something is replaced. -/
  asks : Bool
  /-- Whether only what is older is replaced. -/
  updates : Bool
  /-- Whether what is done is told. -/
  tells : Bool
  /-- Whether links are made in the place of copies. -/
  links : Option Bool

namespace Transfer

/-- Whether something may take the place of what a location leads to. -/
def mayReplace (x : Transfer) (source l : Location) (path : Text) : Act Bool := do
  let s ← get
  match (s.files.number? l).bind s.files.node? with
  | none => return true
  | some node =>
    let isOld := match (s.files.number? source).bind s.files.node? with
      | some other => node.stamp < other.stamp
      | none => true
    if !x.replaces then return false
    else if x.updates ∧ !isOld then return false
    else if x.asks then
      asksFor (x.program.toList ++ ": overwrite ".toList ++ quotedName path ++ "? ".toList)
    else return true

/-- Tells what is copied to where. -/
def report (x : Transfer) (words : String) (source target : Text) : Act Unit := do
  if x.tells then
    putLine (words.toList ++ quotedName source ++ " -> ".toList ++ quotedName target)

/-- Copies what is at a location to another one. Gives whether all could be copied. -/
def copyTree (x : Transfer) : Nat → Bool → Location → Text → Location → Text → Act Bool
  | 0, _, _, _, _, _ => return false
  | n + 1, isTop, l, path, l', path' => do
    let s ← get
    let refuse (message : Text) : Act Bool := do
      tellOf x.program message
      return false
    match (s.files.number? l).bind fun i ↦ (s.files.node? i).map fun node ↦ (i, node) with
    | none => return true
    | some (i, node) =>
      let there := s.files.content? l'
      let mode := if x.keeps then node.mode else node.mode - (node.mode &&& s.mask)
      let isMissing := (s.files.requireDirectory l'.dropLast).toOption.isNone
      match node.content with
      | .directory =>
        if !x.isDeep then
          refuse ("-r not specified; omitting directory ".toList ++ quotedName path)
        else if l' = l ∨ FileStore.isBelow l l' then
          refuse ("cannot copy a directory, ".toList ++ quotedName path ++
            ", into itself, ".toList ++ quotedName path')
        else
          let goOn : Act Bool := do
            let mut isWhole := true
            for name in namesIn (← get).files l do
              if !(← copyTree x n false (l ++ [wide name]) (pathIn path name) (l' ++ [wide name])
                (pathIn path' name)) then isWhole := false
            return isWhole
          match there with
          | some .directory => goOn
          | some _ => refuse ("cannot overwrite non-directory ".toList ++ quotedName path' ++
              " with directory ".toList ++ quotedName path)
          | none =>
            if isMissing then
              refuse (quotedFault "cannot create directory " path' FileFault.missing.words)
            else
              set { s with files := s.files.put l' .directory mode }
              x.report "" path path'
              goOn
      | content =>
        if there = some .directory then
          refuse ("cannot overwrite directory ".toList ++ quotedName path' ++
            " with non-directory ".toList ++ quotedName path)
        else if s.files.number? l' = some i then
          refuse (quotedName path ++ " and ".toList ++ quotedName path' ++
            " are the same file".toList)
        else if isMissing then
          let isFile := (s.files.find (pathOf (upperPath path'))).toOption.isSome
          refuse (quotedFault "cannot create regular file " path'
            (if isFile ∨ endsWithSlash path' then FileFault.notDirectory else .missing).words)
        else if endsWithSlash path' ∧ there.isNone then
          refuse (quotedFault "cannot create regular file " path' FileFault.notDirectory.words)
        else if !(← x.mayReplace l l' path') then return true
        else
          let files := (← get).files
          let octets := (files.octets? i).getD []
          let files := match x.links, content, files.number? l' with
            | some true, _, _ => files.link l' i
            | some false, _, _ => files.put l' (.link (wide path)) FileStore.linkMode
            | none, .link target, _ =>
              if x.follows ∨ (isTop && !x.isDeep) then files.put l' (.file octets) mode
              else (files.drop l').put l' (.link target) FileStore.linkMode
            | none, _, some target =>
              if files.content? l' = some .device then files else files.store target octets
            | none, _, none => files.put l' (.file octets) mode
          modify fun s ↦ { s with files }
          x.report "" path path'
          return true

/-- Moves what is at a location to another one, and gives whether that was possible. -/
def moveTree (x : Transfer) (l : Location) (path : Text) (l' : Location) (path' : Text) :
    Act Bool := do
  let s ← get
  let refuse (message : Text) : Act Bool := do
    tellOf x.program message
    return false
  match s.files.content? l with
  | none => return true
  | some content =>
    let isDirectory := content = .directory
    let cannot (words : Text) : Act Bool := refuse ("cannot move ".toList ++ quotedName path ++
      " to ".toList ++ quotedName path' ++ ": ".toList ++ words)
    if (s.files.number? l') = s.files.number? l then
      refuse (quotedName path ++ " and ".toList ++ quotedName path' ++ " are the same file".toList)
    else if isDirectory ∧ FileStore.isBelow l l' then
      refuse ("cannot move ".toList ++ quotedName path ++ " to a subdirectory of itself, ".toList ++
        quotedName path')
    else match s.files.content? l' with
      | some .directory =>
        if !isDirectory then
          refuse ("cannot overwrite directory ".toList ++ quotedName path' ++
            " with non-directory ".toList ++ quotedName path)
        else if !isEmptyDirectory s.files l' then cannot "Directory not empty".toList
        else transfer s
      | some _ =>
        if isDirectory then
          refuse ("cannot overwrite non-directory ".toList ++ quotedName path' ++
            " with directory ".toList ++ quotedName path)
        else if ← x.mayReplace l l' path' then transfer (← get) else return true
      | none =>
        match s.files.requireDirectory l'.dropLast with
        | .error f => cannot f.words
        | .ok () =>
          if endsWithSlash path' ∧ !isDirectory then cannot FileFault.notDirectory.words
          else transfer s
where
  /-- Gives everything at and below the location its new name. -/
  transfer (s : State) : Act Bool := do
    let isMoved (e : Location × Nat) : Bool := e.1 == l || FileStore.isBelow l e.1
    let kept := s.files.entries.filter fun e ↦ !isMoved e && e.1 != l'
    let moved := (s.files.entries.filter isMoved).map fun e ↦ (l' ++ e.1.drop l.length, e.2)
    set { s with files := { s.files with entries := moved ++ kept } }
    x.report "renamed " path path'
    return true

end Transfer

/-- Goes on with every source of a program and the place to which it is to be brought. A target that
is a directory takes the sources in. -/
def eachTransfer (form : OptionForm) (c : Choices) (act : Text → Text → Act Bool) : Act Nat := do
  let s ← get
  let isDirectory (path : Text) : Bool :=
    (s.files.find (pathOf path)).toOption = some .directory && !path.isEmpty
  let all (sources : List Text) (place : Text → Text) : Act Nat := do
    let mut status := 0
    for source in sources do
      if !(← act source (place source)) then status := 1
    return status
  let inside (directory source : Text) : Text := pathIn directory (lastName source)
  let noTarget (target : Text) : Act Nat := do
    let words := match s.files.find (pathOf target) with
      | .ok _ => FileFault.notDirectory.words
      | .error f => f.words
    failOf form.name 1 ((if c.has 't' then "target directory " else "target ").toList ++
      quotedName target ++ ": ".toList ++ words)
  match c.value? 't' with
  | some directory =>
    if c.others.isEmpty then form.misuse "missing file operand".toList
    else if isDirectory directory then all c.others (inside directory) else noTarget directory
  | none =>
    match c.others with
    | [] => form.misuse "missing file operand".toList
    | [source] => form.misuse ("missing destination file operand after ".toList ++
        quotedName source)
    | [source, target] =>
      if isDirectory target ∧ !c.has 'T' then all [source] (inside target)
      else all [source] fun _ ↦ target
    | operands =>
      let target := operands.getLast?.getD []
      if c.has 'T' then
        form.misuse ("extra operand ".toList ++ quotedName (operands.getD 2 []))
      else if isDirectory target then all operands.dropLast (inside target) else noTarget target

/-- The two locations of a transfer, or the message that there are none. -/
def transferPlaces (program : String) (follows : Bool) (source target : Text) :
    Act (Option (Location × Location)) := do
  let files := (← get).files
  let fault (words : Text) : Act (Option (Location × Location)) := do
    tellOf program (quotedFault "cannot stat " source words)
    return none
  match if source.isEmpty then .error .missing
    else files.locate (pathOf source) (follows || endsWithSlash source) with
  | .error f => fault f.words
  | .ok l =>
    match files.content? l with
    | none => fault FileFault.missing.words
    | some content =>
      if endsWithSlash source ∧ content != .directory then fault FileFault.notDirectory.words
      else match files.locate (pathOf target) with
        | .ok l' => return some (l, l')
        | .error f =>
          tellOf program (if program = "mv" then
              "cannot move ".toList ++ quotedName source ++ " to ".toList ++ quotedName target ++
                ": ".toList ++ f.words
            else if content = .directory then quotedFault "cannot create directory " target f.words
            else quotedFault "cannot create regular file " target
              (if endsWithSlash target ∧ f = .missing then FileFault.notDirectory else f).words)
          return none

/-- The program `cp`. -/
def copyFiles : Utility :=
  let form : OptionForm := {
    name := "cp", plain := "aRrfinpuvTlsdPLHxE", valued := "t"
    long := [("archive", 'a'), ("recursive", 'r'), ("force", 'f'), ("interactive", 'i'),
      ("no-clobber", 'n'), ("preserve", 'p'), ("update", 'u'), ("verbose", 'v'),
      ("no-target-directory", 'T'), ("target-directory", 't'), ("link", 'l'),
      ("symbolic-link", 's'), ("no-dereference", 'P'), ("dereference", 'L'), ("parents", 'E')] }
  fun arguments ↦ form.choose arguments fun c ↦ do
    let isDeep := c.has 'r' || c.has 'R' || c.has 'a'
    let keepsLinks := c.has 'P' || c.has 'd' || c.has 'a' || (isDeep && !c.has 'L' && !c.has 'H')
    let x : Transfer := {
      program := "cp", isDeep, follows := !keepsLinks, keeps := c.has 'p' || c.has 'a'
      replaces := !c.has 'n', asks := c.last? "fi" = some 'i', updates := c.has 'u'
      tells := c.has 'v', links := if c.has 'l' then some true else if c.has 's' then some false
        else none }
    eachTransfer form c fun source target ↦ do
      match ← transferPlaces "cp" x.follows source target with
      | none => return false
      | some (l, l') => x.copyTree maxTreeDepth true l source l' target

/-- The program `mv`. -/
def moveFiles : Utility :=
  let form : OptionForm := {
    name := "mv", plain := "finuvT", valued := "t"
    long := [("force", 'f'), ("interactive", 'i'), ("no-clobber", 'n'), ("update", 'u'),
      ("verbose", 'v'), ("no-target-directory", 'T'), ("target-directory", 't')] }
  fun arguments ↦ form.choose arguments fun c ↦ do
    let x : Transfer := {
      program := "mv", isDeep := true, follows := false, keeps := true
      replaces := c.last? "fin" != some 'n', asks := c.last? "fin" = some 'i', updates := c.has 'u'
      tells := c.has 'v', links := none }
    eachTransfer form c fun source target ↦ do
      match ← transferPlaces "mv" false source target with
      | none => return false
      | some (l, l') => x.moveTree l source l' target

/-! ### Links -/

/-- Makes a link to a target at a path, and gives whether that was possible. -/
def makeLink (c : Choices) (target path : Text) : Act Bool := do
  let s ← get
  let refuse (message : Text) : Act Bool := do
    tellOf "ln" message
    return false
  let kind : String := if c.has 's' then "symbolic link" else "hard link"
  let cannot (words : Text) : Act Bool := do
    let aim := if c.has 's' ∨ words = FileFault.taken.words then []
      else " => ".toList ++ quotedName target
    refuse ("failed to create ".toList ++ kind.toList ++ ' ' :: quotedName path ++ aim ++
      ": ".toList ++ words)
  match if path.isEmpty then .error .missing else s.files.locate (pathOf path) false with
  | .error f => cannot f.words
  | .ok l =>
    let finish (change : FileStore → FileStore) : Act Bool := do
      match s.files.content? l with
      | some .directory =>
        if c.has 'f' then refuse (quotedName path ++ ": cannot overwrite directory".toList)
        else cannot FileFault.taken.words
      | some _ =>
        if c.has 'f' then
          modify fun s ↦ { s with files := change (s.files.drop l) }
          return true
        else cannot FileFault.taken.words
      | none =>
        modify fun s ↦ { s with files := change s.files }
        return true
    let tells : Act Unit := do
      if c.has 'v' then putLine (quotedName path ++ (if c.has 's' then " -> " else " => ").toList ++
        quotedName target)
    if c.has 's' then
      let shownTarget := if c.has 'r' then
          match locationOf s.files .none target with
          | .ok goal => pathBetween l.dropLast goal
          | .error _ => target
        else target
      if ← finish (·.put l (.link (wide shownTarget)) FileStore.linkMode) then
        tells
        return true
      else return false
    else match s.files.findNumber (pathOf target) (!c.has 'P') with
      | .error f => refuse (quotedFault "failed to access " target f.words)
      | .ok n =>
        if ((s.files.node? n).map (·.isDirectory)).getD false then
          refuse (shownFile target ++ ": hard link not allowed for directory".toList)
        else if s.files.number? l = some n ∧ c.has 'f' then
          refuse (quotedName target ++ " and ".toList ++ quotedName path ++
            " are the same file".toList)
        else if ← finish (·.link l n) then
          tells
          return true
        else return false

/-- The program `ln`. -/
def linkFiles : Utility :=
  let form : OptionForm := {
    name := "ln", plain := "sfinrvTPL", valued := "t"
    long := [("symbolic", 's'), ("force", 'f'), ("interactive", 'i'), ("no-dereference", 'n'),
      ("relative", 'r'), ("verbose", 'v'), ("no-target-directory", 'T'), ("target-directory", 't'),
      ("physical", 'P'), ("logical", 'L')] }
  fun arguments ↦ form.choose arguments fun c ↦ do
    let s ← get
    let isDirectory (path : Text) : Bool :=
      (s.files.find (pathOf path) (!c.has 'n')).toOption = some .directory
    let all (targets : List Text) (directory : Text) : Act Nat := do
      let mut status := 0
      for target in targets do
        if !(← makeLink c target (pathIn directory (lastName target))) then status := 1
      return status
    match c.value? 't', c.others with
    | _, [] => form.misuse "missing file operand".toList
    | some directory, targets =>
      if isDirectory directory then all targets directory
      else failOf "ln" 1 (quotedFault "target directory " directory FileFault.missing.words)
    | none, [target] =>
      let made ← makeLink c target (lastName target)
      return if made then 0 else 1
    | none, [target, path] =>
      if isDirectory path ∧ !c.has 'T' then all [target] path
      else
        let made ← makeLink c target path
        return if made then 0 else 1
    | none, targets =>
      let directory := targets.getLast?.getD []
      if isDirectory directory then all targets.dropLast directory
      else failOf "ln" 1 (quotedFault "target " directory
        (match s.files.find (pathOf directory) with
          | .ok _ => FileFault.notDirectory.words
          | .error f => f.words))

/-! ### Permissions, times and sizes -/

/-- Changes the permissions of what is at a location, and of all below it if that is asked for. -/
def changeModes (c : Choices) (mode : Text) : Nat → Location → Text → Act Unit
  | 0, _, _ => return
  | n + 1, l, path => do
    let s ← get
    match s.files.number? l with
    | none => return
    | some i =>
      match s.files.node? i with
      | none => return
      | some node =>
        let bits := (changeMode? s.mask node.isDirectory mode node.mode).getD node.mode
        set { s with files := s.files.update i fun node ↦ { node with mode := bits } }
        let symbolic (bits : Nat) : Text := (List.range 9).map fun k ↦
          if bits / Nat.pow 2 (8 - k) % 2 = 1 then "rwx".toList.getD (k % 3) '-' else '-'
        let octal (bits : Nat) : Text :=
          let t := digitsIn 8 bits
          List.replicate (4 - t.length) '0' ++ t
        if c.has 'v' ∨ (c.has 'c' ∧ bits ≠ node.mode) then
          putLine ("mode of ".toList ++ quotedName path ++ (if bits = node.mode then
            " retained as ".toList ++ octal bits ++ " (".toList ++ symbolic bits ++ ")".toList
            else " changed from ".toList ++ octal node.mode ++ " (".toList ++ symbolic node.mode ++
              ") to ".toList ++ octal bits ++ " (".toList ++ symbolic bits ++ ")".toList))
        if c.has 'R' ∧ node.isDirectory then
          for name in namesIn s.files l do
            if !((s.files.content? (l ++ [wide name])).any fun x ↦ x matches .link _) then
              changeModes c mode n (l ++ [wide name]) (pathIn path name)

/-- Whether an argument with a hyphen is a change of permissions. -/
def isModeArgument (t : Text) : Bool :=
  match t with
  | '-' :: c :: rest => "rwxXstugoa,+=01234567".toList.contains c &&
      rest.all fun c ↦ "rwxXstugoa,+-=01234567".toList.contains c
  | _ => false

/-- The program `chmod`. -/
def changePermissions : Utility :=
  let form : OptionForm := {
    name := "chmod", plain := "Rcfv", valued := "r"
    long := [("recursive", 'R'), ("changes", 'c'), ("quiet", 'f'), ("silent", 'f'),
      ("verbose", 'v'), ("reference", 'r')] }
  fun arguments ↦
    let removal := arguments.find? isModeArgument
    form.choose (arguments.filter fun t ↦ !isModeArgument t) fun c ↦ do
      let s ← get
      let reference? := (c.value? 'r').bind fun path ↦
        ((s.files.findNumber (pathOf path)).toOption.bind s.files.node?).map fun node ↦
          digitsIn 8 node.mode
      let (mode?, paths) : Option Text × List Text := match reference?.or removal with
        | some mode => (some mode, c.others)
        | none => (c.others.head?, c.others.drop 1)
      match mode? with
      | none => form.misuse "missing operand".toList
      | some mode =>
        if paths.isEmpty then
          form.misuse ("missing operand after ".toList ++ curled mode)
        else if (changeMode? s.mask false mode 0).isNone then
          form.misuse ("invalid mode: ".toList ++ curled mode)
        else
          let mut status := 0
          for path in paths do
            let files := (← get).files
            match files.locate (pathOf path) with
            | .error f =>
              if !c.has 'f' then tellOf "chmod" (quotedFault "cannot access " path f.words)
              status := 1
            | .ok l =>
              if (files.number? l).isNone then
                if !c.has 'f' then
                  tellOf "chmod" (quotedFault "cannot access " path FileFault.missing.words)
                status := 1
              else changeModes c mode maxTreeDepth l path
          return status

/-- The program `touch`. -/
def touchFiles : Utility :=
  let form : OptionForm := {
    name := "touch", plain := "acfmh", valued := "drt"
    long := [("no-create", 'c'), ("date", 'd'), ("reference", 'r'), ("time", 'm'),
      ("no-dereference", 'h')] }
  fun arguments ↦ form.choose arguments fun c ↦ do
    if c.others.isEmpty then return ← form.misuse "missing file operand".toList
    let mut status := 0
    for path in c.others do
      let s ← get
      match s.files.findNumber (pathOf path) with
      | .ok n => set { s with files := s.files.update n id }
      | .error f =>
        if f = .missing ∧ c.has 'c' then pure ()
        else match if endsWithSlash path ∨ path.isEmpty then .error .missing
          else s.files.write (pathOf path) [] s.newMode with
          | .ok files => set { s with files }
          | .error f =>
            tellOf "touch" (quotedFault (if endsWithSlash path then "setting times of "
              else "cannot touch ") path f.words)
            status := 1
    return status

/-- The size of a file after a change that a text describes. -/
def changeSize? (old : Nat) (t : Text) : Option Nat :=
  match t with
  | '+' :: n => (sizedNumber? n).map (old + ·)
  | '-' :: n => (sizedNumber? n).map (old - ·)
  | '<' :: n => (sizedNumber? n).map (min old)
  | '>' :: n => (sizedNumber? n).map (max old)
  | '/' :: n => (sizedNumber? n).bind fun n ↦ if n = 0 then none else some (old / n * n)
  | '%' :: n => (sizedNumber? n).bind fun n ↦ if n = 0 then none else some ((old + n - 1) / n * n)
  | n => sizedNumber? n

/-- The program `truncate`. -/
def resizeFiles : Utility :=
  let form : OptionForm := {
    name := "truncate", plain := "co", valued := "rs"
    long := [("no-create", 'c'), ("io-blocks", 'o'), ("reference", 'r'), ("size", 's')] }
  fun arguments ↦ form.choose arguments fun c ↦ do
    let s ← get
    let size? := (c.value? 's').or ((c.value? 'r').bind fun path ↦
      (s.files.read (pathOf path)).toOption.map fun octets ↦ shown octets.length)
    match size? with
    | none =>
      form.misuse ("you must specify either ".toList ++ curled "--size".toList ++
        " or ".toList ++ curled "--reference".toList)
    | some t =>
      if (changeSize? 0 t).isNone then failOf "truncate" 1 ("Invalid number: ".toList ++ curled t)
      else if c.others.isEmpty then form.misuse "missing file operand".toList
      else
        let mut status := 0
        for path in c.others do
          let s ← get
          let old := s.files.read (pathOf path)
          if c.has 'c' ∧ old.toOption.isNone then pure ()
          else
            let octets := old.toOption.getD []
            let size := (changeSize? octets.length t).getD 0
            let octets := octets.take size ++ List.replicate (size - octets.length) 0
            match s.files.write (pathOf path) octets s.newMode with
            | .ok files => set { s with files }
            | .error f =>
              tellOf "truncate" (quotedFault "cannot open " path f.words)
              status := 1
        return status

/-- The program `mktemp`. -/
def makeTemporary : Utility :=
  let form : OptionForm := {
    name := "mktemp", plain := "dqut", valued := "p"
    long := [("directory", 'd'), ("quiet", 'q'), ("dry-run", 'u'), ("tmpdir", 't'),
      ("suffix", 's')] }
  fun arguments ↦ form.choose arguments fun c ↦ do
    let s ← get
    let given := c.others.head?
    let template := given.getD "tmp.XXXXXXXXXX".toList
    let suffix := (template.reverse.takeWhile (· != 'X')).reverse
    let start := template.take (template.length - suffix.length)
    let count := (start.reverse.takeWhile (· = 'X')).length
    if count < 3 then
      return ← failOf "mktemp" 1 ("too few X's in template ".toList ++ curled template)
    let directory : Text := match c.value? 'p' with
      | some d => d
      | none => if given.isNone ∨ c.has 't' then
          (if (s.valueOf "TMPDIR").isEmpty then "/tmp".toList else s.valueOf "TMPDIR") else []
    let letters := "0123456789abcdefghijklmnopqrstuvwxyz".toList
    let number := s.files.fresh * 7919 + s.process
    let filling := (List.range count).map fun i ↦ letters.getD (number / Nat.pow 36 i % 36) '0'
    let name := start.take (start.length - count) ++ filling ++ suffix
    let path := if directory.isEmpty then name else pathIn directory name
    let shownTemplate := if directory.isEmpty then template else pathIn directory template
    if c.has 'u' then
      putLine path
      return 0
    let made := if c.has 'd' then s.files.make (pathOf path) .directory 0o700
      else s.files.make (pathOf path) (.file []) 0o600
    match made with
    | .ok files =>
      set { s with files }
      putLine path
      return 0
    | .error f =>
      if c.has 'q' then return 1
      failOf "mktemp" 1 ((if c.has 'd' then "failed to create directory via template "
        else "failed to create file via template ").toList ++ curled shownTemplate ++ ": ".toList ++
          f.words)

end CommandScript.Shell
