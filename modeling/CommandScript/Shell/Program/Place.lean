import CommandScript.Shell.Builtin.Name
import CommandScript.Shell.Program.Basic

/-!
# Programs on paths

Paths are taken apart by their text alone, or followed through links to where they lead. A path that
is written from one directory to another goes up to the directory that both share.
-/
namespace CommandScript.Shell

/-! ### Parts of paths -/

/-- A text without the slashes at its end. -/
def withoutSlashes (t : Text) : Text := (t.reverse.dropWhile (· = '/')).reverse

/-- The last name of a path. -/
def lastName (path : Text) : Text :=
  let t := withoutSlashes path
  if t.isEmpty then path.take 1 else (t.reverse.takeWhile (· != '/')).reverse

/-- A name without an ending that it has, unless it is nothing else. -/
def withoutEnding (ending name : Text) : Text :=
  if ending != name ∧ ending.isSuffixOf name then name.take (name.length - ending.length) else name

/-- A path without its last name. -/
def upperPath (path : Text) : Text :=
  let t := withoutSlashes path
  let upper := withoutSlashes (t.reverse.dropWhile (· != '/')).reverse
  if !upper.isEmpty then upper else if path.head? = some '/' then ['/'] else ['.']

/-- The program `basename`. -/
def writeLastName : Utility :=
  let form : OptionForm := {
    name := "basename", plain := "az", valued := "s", inFront := true
    long := [("multiple", 'a'), ("suffix", 's'), ("zero", 'z')] }
  fun arguments ↦ form.choose arguments fun c ↦ do
    let ending := if c.has 'z' then '\x00' else '\n'
    let isMany := c.has 'a' || c.has 's'
    match c.others with
    | [] => form.misuse "missing operand".toList
    | names =>
      if isMany then
        put (names.flatMap fun name ↦
          withoutEnding ((c.value? 's').getD []) (lastName name) ++ [ending])
        return 0
      else match names with
        | _ :: _ :: extra :: _ =>
          form.misuse ("extra operand ".toList ++ curled extra)
        | name :: rest =>
          let last := lastName name
          put ((if last = ['/'] then last else withoutEnding (rest.headD []) last) ++ [ending])
          return 0
        | [] => return 0

/-- The program `dirname`. -/
def writeUpperPath : Utility :=
  let form : OptionForm := { name := "dirname", plain := "z", long := [("zero", 'z')] }
  fun arguments ↦ form.choose arguments fun c ↦ do
    if c.others.isEmpty then form.misuse "missing operand".toList
    else
      put (c.others.flatMap fun path ↦ upperPath path ++ [if c.has 'z' then '\x00' else '\n'])
      return 0

/-! ### Where paths lead -/

/-- What of a path has to be there. -/
inductive PathDemand where
  /-- All of it. -/
  | whole
  /-- All but its last name. -/
  | upper
  /-- Nothing. -/
  | none
  deriving DecidableEq, Repr

/-- The location that names lead to, where those that are not there are taken as they stand. -/
def looseLocation (files : FileStore) : Location → List Text → Location
  | l, [] => l
  | l, name :: rest =>
    if name = ['.', '.'] then looseLocation files l.dropLast rest
    else
      let next : Location := match files.follow true FileStore.maxLinks l [name] with
        | .ok found => found
        | .error _ => l ++ [name]
      looseLocation files next rest

/-- The location that a path leads to. -/
def locationOf (files : FileStore) (demand : PathDemand) (path : Text) :
    Except FileFault Location :=
  let p := pathOf path
  let start := match p.root with
    | .here => files.here
    | _ => []
  match demand with
  | .none => .ok (looseLocation files start p.names)
  | demand =>
    if path.isEmpty then .error .missing
    else match files.locate p with
      | .error f => .error f
      | .ok l =>
        if (files.number? l).isSome then
          if endsWithSlash path ∧ files.content? l != some .directory then .error .notDirectory
          else .ok l
        else if demand = .whole then .error .missing
        else match files.requireDirectory l.dropLast with
          | .ok () => .ok l
          | .error f => .error f

/-- The path from one location to another. -/
def pathBetween : Location → Location → Text
  | a :: as, b :: bs =>
    if a = b then pathBetween as bs
    else narrow (['/'].intercalate ((a :: as).map (fun _ ↦ ['.', '.']) ++ b :: bs))
  | as, bs =>
    let names := as.map (fun _ ↦ ['.', '.']) ++ bs
    if names.isEmpty then ['.'] else narrow (['/'].intercalate names)

/-- The program `readlink`. -/
def writeTarget : Utility :=
  let form : OptionForm := {
    name := "readlink", plain := "femnqsvz"
    long := [("canonicalize", 'f'), ("canonicalize-existing", 'e'), ("canonicalize-missing", 'm'),
      ("no-newline", 'n'), ("quiet", 'q'), ("silent", 's'), ("verbose", 'v'), ("zero", 'z')] }
  fun arguments ↦ form.choose arguments fun c ↦ do
    if c.others.isEmpty then return ← form.misuse "missing operand".toList
    let files := (← get).files
    let ending : Text := if c.has 'z' then ['\x00']
      else if c.has 'n' ∧ c.others.length = 1 then [] else ['\n']
    let demand? : Option PathDemand := (c.last? "fem").map fun letter ↦
      if letter = 'f' then .upper else if letter = 'e' then .whole else .none
    let mut status := 0
    for path in c.others do
      let found : Except Text Text := match demand? with
        | some demand => match locationOf files demand path with
          | .ok l => .ok (locationText l)
          | .error f => .error f.words
        | none => match files.find (pathOf path) (endsWithSlash path) with
          | .ok (.link target) => .ok (narrow target)
          | .ok _ => .error "Invalid argument".toList
          | .error f => .error f.words
      match found with
      | .ok t => put (t ++ ending)
      | .error words =>
        if c.has 'v' then tellOf "readlink" (shownFile path ++ ": ".toList ++ words)
        status := 1
    return status

/-- The program `realpath`. -/
def writeRealPath : Utility :=
  let form : OptionForm := {
    name := "realpath", plain := "emLPqsz", valued := "rb"
    long := [("canonicalize-existing", 'e'), ("canonicalize-missing", 'm'), ("logical", 'L'),
      ("physical", 'P'), ("quiet", 'q'), ("relative-to", 'r'), ("relative-base", 'b'),
      ("strip", 's'), ("no-symlinks", 's'), ("zero", 'z')] }
  fun arguments ↦ form.choose arguments fun c ↦ do
    if c.others.isEmpty then return ← form.misuse "missing operand".toList
    let files := (← get).files
    let demand : PathDemand := match c.last? "em" with
      | some 'e' => .whole
      | some _ => .none
      | none => .upper
    let plain (path : Text) : Location :=
      let p := pathOf path
      p.names.foldl (fun l name ↦ if name = ['.', '.'] then l.dropLast else l ++ [name])
        (match p.root with | .here => files.here | _ => [])
    let locate (path : Text) : Except FileFault Location :=
      if c.has 's' then .ok (plain path) else locationOf files demand path
    let base? := (c.value? 'r').bind fun path ↦ (locate path).toOption
    let mut status := 0
    for path in c.others do
      match locate path with
      | .ok l =>
        put ((match base? with
          | some base => pathBetween base l
          | none => locationText l) ++ [if c.has 'z' then '\x00' else '\n'])
      | .error f =>
        if !c.has 'q' then tellOf "realpath" (fileFault path f)
        status := 1
    return status

/-- The program `which`. -/
def writeProgramPlaces : Utility :=
  let form : OptionForm := { name := "which", plain := "as", failure := 2, inFront := true }
  fun arguments ↦ form.choose arguments fun c ↦ do
    let s ← get
    let mut status := if c.others.isEmpty then 1 else 0
    for name in c.others do
      let found := (programPlaces (s.valueOf "PATH") name).filter (isRunnable s.files)
      if found.isEmpty then status := 1
      else if !c.has 's' then put (ofLines (if c.has 'a' then found else found.take 1))
    return status

/-! ### The working directory -/

/-- The program `pwd`, which takes the path from the environment only if it is asked to, and if that
leads to the working directory without detours. -/
def writeDirectory : Utility :=
  let form : OptionForm := {
    name := "pwd", plain := "LP", long := [("logical", 'L'), ("physical", 'P')] }
  fun arguments ↦ form.choose arguments fun c ↦ do
    let s ← get
    if !c.others.isEmpty then tellOf "pwd" "ignoring non-option arguments".toList
    let isDetour (name : Text) : Bool := name = ['.'] || name = "..".toList
    let isRight (t : Text) : Bool :=
      t.head? = some '/' && !(Text.fields '/' t).any isDetour &&
        match s.files.locate (pathOf t) with
        | .ok l => l = s.files.here
        | .error _ => false
    let given := (s.environment.lookup "PWD".toList).filter fun t ↦
      c.last? "LP" = some 'L' && isRight t
    putLine (given.getD (locationText s.files.here))
    return 0

end CommandScript.Shell
