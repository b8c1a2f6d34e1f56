import CommandScript.Path
import CommandScript.Text.Quoted
import CommandScript.Text.Utf8

/-!
# File stores

The files that scripts and commands see: nodes with what they hold, the locations under one root
that lead to them, and a working directory. Two locations may lead to one node, and a node that no
location leads to any more is still there for what has opened it. A path is followed name by name:
each name but the last has to be a directory, two dots lead to the directory above (the root is
above itself), a link is followed to where it points, and a name or a whole path that is too long is
refused where it is reached. Every refusal has a number and words, and a message shows it with the
path in quotes.
-/
namespace CommandScript

/-- A **location** is the list of names from the root of all files. -/
abbrev Location := List Text

/-- What a node holds. -/
inductive FileStore.Content where
  /-- A file with its octets. -/
  | file (octets : List UInt8)
  /-- A directory. -/
  | directory
  /-- A link to another path. -/
  | link (target : Text)
  /-- A device to which everything can be written and from which nothing comes. -/
  | device
  deriving DecidableEq, Repr

/-- A **node**: what is stored once, under however many names. -/
structure FileStore.Node where
  /-- What it holds. -/
  content : FileStore.Content
  /-- The permission bits. -/
  mode : Nat
  /-- When it was last changed, by the clock of the store. -/
  stamp : Nat
  deriving DecidableEq, Repr

/-- Whether a node is a directory. -/
def FileStore.Node.isDirectory (node : FileStore.Node) : Bool := node.content = .directory

/-- Whether a node is a file. -/
def FileStore.Node.isFile (node : FileStore.Node) : Bool := match node.content with
  | .file _ => true
  | _ => false

/-- A **file store**: what the locations lead to, and the working directory. -/
structure FileStore where
  /-- The locations in use, each with the number of its node. -/
  entries : List (Location × Nat)
  /-- The nodes by number, the latest first. -/
  nodes : List (Nat × FileStore.Node)
  /-- The clock, which goes on with every change. -/
  clock : Nat
  /-- The working directory. -/
  here : Location
  deriving DecidableEq, Repr

/-- Why a file or directory cannot be used. -/
inductive FileFault where
  /-- Nothing has the name. -/
  | missing
  /-- Something has the name already. -/
  | taken
  /-- A name before the last is no directory. -/
  | notDirectory
  /-- A file is needed and the path leads to a directory. -/
  | isDirectory
  /-- A name or the path is too long. -/
  | nameTooLong
  /-- Links lead to each other. -/
  | tooManyLinks
  deriving DecidableEq, Repr

namespace FileFault

/-- The number of a fault. -/
def number : FileFault → Nat
  | .missing => 2
  | .taken => 17
  | .notDirectory => 20
  | .isDirectory => 21
  | .nameTooLong => 36
  | .tooManyLinks => 40

/-- The words for a fault. -/
def words : FileFault → Text
  | .missing => "No such file or directory".toList
  | .taken => "File exists".toList
  | .notDirectory => "Not a directory".toList
  | .isDirectory => "Is a directory".toList
  | .nameTooLong => "File name too long".toList
  | .tooManyLinks => "Too many levels of symbolic links".toList

/-- The message of a fault that a path has met. -/
def message (f : FileFault) (p : Path) : Text :=
  "[Errno ".toList ++ (toString f.number).toList ++ "] ".toList ++ f.words ++ ": ".toList ++
    Text.quoted p.text

end FileFault

namespace FileStore

/-- The most octets that one name may have. -/
def maxNameOctets : Nat := 255

/-- The most octets that a whole path may have. -/
def maxPathOctets : Nat := 4095

/-- The most links that are followed on the way to one place. -/
def maxLinks : Nat := 40

/-- The permission bits of a new file. -/
def fileMode : Nat := 0o644

/-- The permission bits of a new directory. -/
def directoryMode : Nat := 0o755

/-- The permission bits of a program. -/
def programMode : Nat := 0o755

/-- The permission bits of a link. -/
def linkMode : Nat := 0o777

/-- The store without anything in it. -/
def empty (here : Location) : FileStore := ⟨[], [], 0, here⟩

/-! ### Looking up -/

/-- The number of the node that a location leads to, if it is in use. -/
def number? (s : FileStore) (l : Location) : Option Nat := s.entries.lookup l

/-- The node of a number. -/
def node? (s : FileStore) (n : Nat) : Option Node := s.nodes.lookup n

/-- What a location leads to, if it is in use. -/
def content? (s : FileStore) (l : Location) : Option Content :=
  ((s.number? l).bind s.node?).map Node.content

/-- The octets of the file of a number. -/
def octets? (s : FileStore) (n : Nat) : Option (List UInt8) :=
  match (s.node? n).map Node.content with
  | some (.file octets) => some octets
  | some .device => some []
  | _ => none

/-- Whether a location is a directory, and otherwise why it is not. -/
def requireDirectory (s : FileStore) (l : Location) : Except FileFault Unit :=
  match s.content? l with
  | some .directory => .ok ()
  | some _ => .error .notDirectory
  | none => .error .missing

/-- Follows names from a location, with the number of links that may still be met. The place that is
reached need not be in use. A link at the end is followed when `through` is set. -/
def follow (s : FileStore) (through : Bool) :
    Nat → Location → List Text → Except FileFault Location
  | _, l, [] => .ok l
  | links, l, name :: rest =>
    match s.requireDirectory l with
    | .error f => .error f
    | .ok () =>
      if name = ['.', '.'] then follow s through links l.dropLast rest
      else if maxNameOctets < (Text.Utf8.encode name).length then .error .nameTooLong
      else match s.content? (l ++ [name]) with
        | some (.link target) =>
          if rest.isEmpty && !through then .ok (l ++ [name])
          else match links with
            | 0 => .error .tooManyLinks
            | links + 1 =>
              let p := Path.ofText target
              follow s through links (match p.root with | .here => l | _ => []) (p.names ++ rest)
        | _ => follow s through links (l ++ [name]) rest
termination_by links _ names => (links, names.length)

/-- The location a path leads to, which need not be in use. -/
def locate (s : FileStore) (p : Path) (through : Bool := true) : Except FileFault Location :=
  if maxPathOctets < (Text.Utf8.encode p.text).length then .error .nameTooLong
  else s.follow through maxLinks (match p.root with | .here => s.here | _ => []) p.names

/-- What a path leads to. -/
def find (s : FileStore) (p : Path) (through : Bool := true) : Except FileFault Content :=
  match s.locate p through with
  | .error f => .error f
  | .ok l =>
    match s.content? l with
    | some e => .ok e
    | none => .error .missing

/-- The number of the node that a path leads to. -/
def findNumber (s : FileStore) (p : Path) (through : Bool := true) : Except FileFault Nat :=
  match s.locate p through with
  | .error f => .error f
  | .ok l =>
    match s.number? l with
    | some n => .ok n
    | none => .error .missing

/-- The number and the octets of the file a path leads to. -/
def open? (s : FileStore) (p : Path) : Except FileFault (Nat × List UInt8) :=
  match s.findNumber p with
  | .error f => .error f
  | .ok n =>
    match s.octets? n with
    | some octets => .ok (n, octets)
    | none => .error .isDirectory

/-- The octets of the file a path leads to. -/
def read (s : FileStore) (p : Path) : Except FileFault (List UInt8) := (s.open? p).map (·.2)

/-! ### Changing -/

/-- A number that no node has. -/
def fresh (s : FileStore) : Nat := (s.nodes.head?.map fun e ↦ e.1 + 1).getD 0

/-- The store with a new node at a location. -/
def put (s : FileStore) (l : Location) (content : Content) (mode : Nat) : FileStore :=
  { s with
    entries := (l, s.fresh) :: s.entries.filter fun e ↦ e.1 != l
    nodes := (s.fresh, ⟨content, mode, s.clock⟩) :: s.nodes
    clock := s.clock + 1 }

/-- The store with a node changed. -/
def update (s : FileStore) (n : Nat) (change : Node → Node) : FileStore :=
  { s with
    nodes := s.nodes.map fun e ↦ if e.1 = n then (n, { change e.2 with stamp := s.clock }) else e
    clock := s.clock + 1 }

/-- The store with other octets in the file of a number. -/
def store (s : FileStore) (n : Nat) (octets : List UInt8) : FileStore :=
  s.update n fun node ↦ { node with content := .file octets }

/-- The store with a location that leads to a node. -/
def link (s : FileStore) (l : Location) (n : Nat) : FileStore :=
  { s with entries := (l, n) :: s.entries.filter fun e ↦ e.1 != l }

/-- The store without a location. The node it leads to stays. -/
def drop (s : FileStore) (l : Location) : FileStore :=
  { s with entries := s.entries.filter fun e ↦ e.1 != l }

/-- Whether a location lies somewhere in a directory. -/
def isBelow (directory l : Location) : Bool :=
  directory.length < l.length && l.take directory.length == directory

/-- Writes a file. The directory that is to hold it has to be there. -/
def write (s : FileStore) (p : Path) (octets : List UInt8) (mode : Nat := fileMode) :
    Except FileFault FileStore :=
  match s.locate p with
  | .error f => .error f
  | .ok l =>
    match s.number? l with
    | none => .ok (s.put l (.file octets) mode)
    | some n =>
      match (s.node? n).map Node.content with
      | some .directory => .error .isDirectory
      | some .device => .ok s
      | _ => .ok (s.store n octets)

/-- Makes something with a name in a directory that is there. -/
def make (s : FileStore) (p : Path) (content : Content) (mode : Nat) :
    Except FileFault FileStore :=
  match s.locate p false with
  | .error f => .error f
  | .ok l =>
    match s.number? l with
    | some _ => .error .taken
    | none => .ok (s.put l content mode)

/-- The store with the working directory moved to where a path leads. -/
def enter (s : FileStore) (p : Path) : Except FileFault FileStore :=
  match s.locate p with
  | .error f => .error f
  | .ok l =>
    match s.requireDirectory l with
    | .error f => .error f
    | .ok () => .ok { s with here := l }

/-- A location and every location above it, from the root down. -/
def ancestors (l : Location) : List Location :=
  (List.range (l.length + 1)).map fun n ↦ l.take n

/-- The store with a directory at a location and at every location above it. -/
def putDirectories (s : FileStore) (l : Location) : FileStore :=
  (ancestors l).foldl
    (fun s l ↦ if (s.number? l).isSome then s else s.put l .directory directoryMode) s

/-- The store with a file at a location, in directories that are made where they lack. -/
def putFile (s : FileStore) (l : Location) (octets : List UInt8) (mode : Nat := fileMode) :
    FileStore :=
  (s.putDirectories l.dropLast).put l (.file octets) mode

end FileStore

/-- What keeps a path from being opened at all, or the fault it meets. -/
inductive OpenFault where
  /-- The path holds a null character. -/
  | embeddedNull
  /-- The files refuse it. -/
  | refused (fault : FileFault)
  deriving DecidableEq, Repr

/-- The number and the octets of the file that a path leads to. A null character in a path is
refused before any file is looked at. -/
def FileStore.openFile (s : FileStore) (p : Path) : Except OpenFault (Nat × List UInt8) :=
  if p.text.contains '\x00' then .error .embeddedNull
  else match s.open? p with
    | .ok found => .ok found
    | .error f => .error (.refused f)

end CommandScript
