import CommandScript.Shell.Expansion
import CommandScript.Shell.Opening

/-!
# Redirections

A redirection lets a channel lead elsewhere: to a file, to what another channel leads to, or to a
text. Redirections are made one after the other; the first one that fails keeps the command from
running.
-/
namespace CommandScript.Shell

section Redirections

variable (run : Runner)

/-- The words for a fault that a redirection meets. -/
def openWords (s : State) (mode : OpenMode) (name : Text) (f : FileFault) : Text :=
  if s.isStandard then
    let words := if f = .missing ∧ mode = .reading then "No such file".toList
      else if f = .missing then "Directory nonexistent".toList else f.words
    (if mode = .reading then "cannot open " else "cannot create ").toList ++ name ++
      ": ".toList ++ words
  else name ++ ": ".toList ++ f.words

/-- Whether a file is there that is not to be overwritten. -/
def isProtected (s : State) (name : Text) : Bool :=
  s.isOn .noclobber && (match s.files.find (pathOf name) with
    | .ok (.file _) => true
    | _ => false)

/-- Lets channels lead to a file, or gives the message of the failure. -/
def openChannels (mode : OpenMode) (name : Text) (channels : List Nat) :
    Act (Except Text Unit) := do
  match ← openConduit mode name with
  | .error f => return .error (openWords (← get) mode name f)
  | .ok conduit =>
    for channel in channels do setChannel channel conduit
    return .ok ()

/-- The least number of a channel that a variable gets. -/
def firstFreshChannel : Nat := 10

/-- The number of a channel that is free, from a number on. -/
def freeAbove (s : State) : Nat → Nat → Nat
  | 0, n => n
  | fuel + 1, n => if (s.channels.lookup n).isSome then freeAbove s fuel (n + 1) else n

/-- Lets a channel lead where another one does, or closes it, or gives the message of the
failure. -/
def duplicateChannel (channel : Nat) (reads : Bool) (isUsual : Bool) (name raw : Text) :
    Act (Except Text Unit) := do
  let s ← get
  let copy (t : Text) : Act (Except Text Bool) := do
    match s.channels.lookup (Text.digitsValue t) with
    | some conduit =>
      setChannel channel conduit
      return .ok true
    | none =>
      if s.isStandard then return .error (t ++ ": Bad file descriptor".toList)
      else return .error ((if isDigits raw then t else raw) ++ ": Bad file descriptor".toList)
  if name = ['-'] then
    closeChannel channel
    return .ok ()
  else if isDigits name then return (← copy name).map fun _ ↦ ()
  else if name.getLast? = some '-' ∧ isDigits name.dropLast then
    match ← copy name.dropLast with
    | .ok _ =>
      if Text.digitsValue name.dropLast ≠ channel then
        closeChannel (Text.digitsValue name.dropLast)
      return .ok ()
    | .error message => return .error message
  else if !reads ∧ isUsual ∧ !s.isStandard then openChannels .writing name [1, 2]
  else if s.isStandard then return .error (name ++ ": Bad fd number".toList)
  else return .error (raw ++ ": ambiguous redirect".toList)

/-- The channel of a redirection and the variable that gets its number. -/
def channelOf (r : Redirect) : Act (Nat × Option Text) := do
  let s ← get
  match r.handle with
  | some (.number n) => return (n, none)
  | some (.fresh name) =>
    let closes := (r.kind matches .duplicate _) && r.target.plain? = some ['-']
    if closes then return (Text.digitsValue ((s.value? name).getD []), none)
    else return (freeAbove s 1000 firstFreshChannel, some name)
  | none =>
    return (match r.kind with
      | .input => 0
      | .update => 0
      | .given => 0
      | .document _ _ _ => 0
      | .duplicate true => 0
      | _ => 1, none)

/-- Warns that a text in the lines after a command has not been ended. -/
def warnOfDocument (lacking : Option (Text × Nat × Nat)) : Act Unit := do
  match lacking with
  | none => return
  | some (word, line, last) =>
    let s ← get
    if !s.isStandard then
      tell ({ s with line := last }.remark ("warning: here-document at line ".toList ++
        shown line ++ " delimited by end-of-file (wanted ".toList ++ citedText word ++ [')']))

/-- The single field that a redirection names. -/
def targetName (r : Redirect) : Act (Except Text Text) := do
  if (← get).isStandard then return .ok (← wordText run r.target)
  else match ← wordFields run r.target with
    | [name] => return .ok name
    | _ => return .error (r.target.raw ++ ": ambiguous redirect".toList)

/-- Makes one redirection, or gives the message of its failure. -/
def redirect (r : Redirect) : Act (Except Text Unit) := do
  let (channel, nameOf?) ← channelOf r
  let feed (t : Text) : Act (Except Text Unit) := do
    setChannel channel (← newConduit (.feed t))
    return .ok ()
  let named (act : Text → Act (Except Text Unit)) : Act (Except Text Unit) := do
    match ← targetName run r with
    | .ok name => act name
    | .error message => return .error message
  let result ← match r.kind with
    | .given => do feed ((← wordText run r.target) ++ ['\n'])
    | .document body lacking source =>
      warnOfDocument lacking
      feed (joined (← expandWhole run source body))
    | .input => named fun name ↦ openChannels .reading name [channel]
    | .update => named fun name ↦ openChannels .updating name [channel]
    | .overwrite => named fun name ↦ openChannels .writing name [channel]
    | .append => named fun name ↦ openChannels .appending name [channel]
    | .both appends =>
      named fun name ↦ openChannels (if appends then .appending else .writing) name [1, 2]
    | .duplicate reads =>
      named fun name ↦ duplicateChannel channel reads r.handle.isNone name r.target.raw
    | .output => named fun name ↦ do
      if isProtected (← get) name then
        if (← get).isStandard then
          return .error ("cannot create ".toList ++ name ++ ": File exists".toList)
        else return .error (name ++ ": cannot overwrite existing file".toList)
      else openChannels .writing name [channel]
  match result, nameOf? with
  | .ok (), some name => assign name (shown channel)
  | _, _ => pure ()
  return result

/-- Makes redirections one after the other, up to the first that fails, and gives whether all have
been made. -/
def redirectAll : List Redirect → Act Bool
  | [] => return true
  | r :: rest => do
    match ← redirect run r with
    | .ok () => redirectAll rest
    | .error message =>
      complain message
      return false

/-- The status of a command that does not run since a redirection has failed. -/
def redirectFailure (s : State) : Nat := if s.isStandard then 2 else 1

/-- Lets readers that are left without a writer wait until another program runs. -/
def postpone (isMeant : Reader → Bool) : Act Unit := modify fun s ↦
  { s with readers := s.readers.map fun r ↦ { r with late := r.late || isMeant r } }

/-- Goes on between redirections, or otherwise where one of them fails. What reads from a command
that runs no program comes after what follows the command. -/
def withRedirects (rs : List Redirect) (act otherwise : Act Unit) : Act Unit := do
  if rs.isEmpty then act
  else
    let first := (← get).nextConduit
    let hasRun ← withChannels run do
      if ← redirectAll run rs then
        let process := (← get).nextProcess
        act
        if (← get).nextProcess = process then postpone fun r ↦ first ≤ r.conduit
        return true
      else
        modify fun s ↦ { s with status := redirectFailure s }
        return false
    if !hasRun then otherwise

end Redirections

end CommandScript.Shell
