import CommandScript.Shell.PathPattern

/-!
# Opening files

A name is opened as a conduit: at a file of the store, or at what one of the own channels leads to
where the name is that of a device for it.
-/
namespace CommandScript.Shell

/-- For what a file is opened. -/
inductive OpenMode where
  /-- It is read. -/
  | reading
  /-- It is emptied and written. -/
  | writing
  /-- It is written at its end. -/
  | appending
  /-- It is read and written. -/
  | updating
  deriving DecidableEq, Repr

/-- The channel that a path is a name for. -/
def ownChannel? (p : Path) : Option Nat :=
  match p.root, p.names.map String.ofList with
  | .top, ["dev", "stdin"] => some 0
  | .top, ["dev", "stdout"] => some 1
  | .top, ["dev", "stderr"] => some 2
  | .top, ["dev", "fd", n] => naturalNumber? n.toList
  | .top, ["proc", "self", "fd", n] => naturalNumber? n.toList
  | _, _ => none

/-- The permission bits of a new file. -/
def State.newMode (s : State) : Nat := 0o666 - (0o666 &&& s.mask)

/-- Whether the last name of a path has a slash behind it. -/
def endsWithSlash (name : Text) : Bool := 1 < name.length && name.getLast? = some '/'

/-- Opens the file at a location, which is made if it is not there and is to be written. -/
def openNode (mode : OpenMode) (name : Text) : Act (Except FileFault Nat) := do
  let s ← get
  let p := pathOf name
  match s.files.locate p with
  | .error f => return .error f
  | .ok l =>
    match s.files.number? l, s.files.content? l with
    | some n, some (.file _) =>
      if endsWithSlash name then return .error .notDirectory
      if mode = .writing then set { s with files := s.files.store n [] }
      return .ok (← newConduit (.file n 0 (mode = .reading || mode = .updating) (mode != .reading)
        (mode = .appending)))
    | some _, some .device => return .ok (← newConduit .nothing)
    | some _, _ =>
      if mode = .reading then return .ok (← newConduit .directory) else return .error .isDirectory
    | none, _ =>
      if mode = .reading then return .error .missing
      else if endsWithSlash name then return .error .isDirectory
      else match s.files.requireDirectory l.dropLast with
        | .error f => return .error f
        | .ok () =>
          let n := s.files.fresh
          set { s with files := s.files.put l (.file []) s.newMode }
          return .ok (← newConduit (.file n 0 (mode = .updating) true (mode = .appending)))

/-- Opens a name as a conduit. -/
def openConduit (mode : OpenMode) (name : Text) : Act (Except FileFault Nat) := do
  let s ← get
  match ownChannel? (pathOf name) with
  | some channel =>
    match s.channels.lookup channel with
    | some conduit => return .ok conduit
    | none => return .error .missing
  | none =>
    if name.isEmpty then return .error .missing else openNode mode name

/-- Reads all of the file that a name leads to. -/
def readFile (name : Text) : Act (Except FileFault Text) := do
  let s ← get
  match ownChannel? (pathOf name) with
  | some channel => readAll channel
  | none =>
    if name.isEmpty then return .error .missing
    else match s.files.open? (pathOf name) with
      | .error f => return .error f
      | .ok (_, octets) =>
        return if endsWithSlash name then .error .notDirectory else .ok (ofFile octets)

/-- Writes a text to the file that a name leads to, in the place of what it holds or behind it. -/
def writeFile (mode : OpenMode) (name t : Text) : Act (Except FileFault Unit) := do
  let s ← get
  match ← openConduit mode name with
  | .error f => return .error f
  | .ok conduit =>
    match (← get).conduits.lookup conduit with
    | some p =>
      let _ ← if t.isEmpty then pure true else writeToConduit conduit p t
    | none => pure ()
    if conduit = s.nextConduit then
      modify fun s ↦ { s with conduits := s.conduits.filter (·.1 != conduit) }
    return .ok ()

end CommandScript.Shell
