import CommandScript.Shell.Program.FileQuery.Parser
import CommandScript.Shell.Program.Launch
import CommandScript.Shell.Program.Listing

/-!
# Searching for files

A search goes through a directory and all that is below it, name by name in order, and puts its
query to each file. Actions may pass over what is in a directory, end the search, run commands, or
remove what has been found; what is gone by the time at which it would be looked at is told.
-/
namespace CommandScript.Shell

namespace FileQuery

/-! ### Files -/

/-- A file that a search has come to. -/
structure Found where
  /-- The path by which it has been found. -/
  path : Text
  /-- The path at which the search started. -/
  start : Text
  /-- How many names have been added to that. -/
  depth : Nat
  /-- Where it is. -/
  location : Location
  /-- The number of its node. -/
  number : Nat
  /-- Its node. -/
  node : FileStore.Node

/-- The node at a location, and where it is, if links at the end are followed or not. One that leads
nowhere stands for itself. -/
def nodeAt? (files : FileStore) (through : Bool) (l : Location) :
    Option (Location × Nat × FileStore.Node) :=
  let at? (l : Location) : Option (Location × Nat × FileStore.Node) :=
    (files.number? l).bind fun n ↦ (files.node? n).map fun node ↦ (l, n, node)
  match at? l with
  | none => none
  | some found =>
    match found.2.2.content, through with
    | .link _, true =>
      (((files.follow true FileStore.maxLinks l.dropLast (l.getLast?.toList)).toOption.bind at?)).or
        (some found)
    | _, _ => some found

namespace Found

/-- The name of a file, as patterns are compared with it. -/
def name (f : Found) : Text := lastName f.path

/-- The kind of a node by a letter. -/
def kindOf (node : FileStore.Node) : Char :=
  match node.content with
  | .file _ => 'f'
  | .directory => 'd'
  | .link _ => 'l'
  | .device => 'c'

/-- The kind of what a file is or, if it is a link, of what that leads to. -/
def farKind (files : FileStore) (f : Found) : Char :=
  match f.node.content with
  | .link _ =>
    match nodeAt? files true f.location with
    | some (_, _, node) => if node.content matches .link _ then 'N' else kindOf node
    | none => 'N'
  | _ => kindOf f.node

/-- The path of a file from the start of the search on. -/
def below (f : Found) : Text := (f.path.drop f.start.length).dropWhile (· = '/')

/-- The part of a path in front of its last name. -/
def front (path : Text) : Text :=
  let t := withoutSlashes path
  let upper := (t.reverse.dropWhile (· != '/')).reverse
  if t.isEmpty then [] else if upper.isEmpty then ['.'] else upper.dropLast

/-- The last name of a path with the slashes behind it. -/
def tail (path : Text) : Text :=
  let t := withoutSlashes path
  if t.isEmpty then path.take 1
  else path.drop (t.length - (t.reverse.takeWhile (· != '/')).length)

end Found

/-! ### Tests -/

/-- Whether a test holds of a file, where links are followed always or not. -/
def Test.holds (s : State) (always : Bool) (f : Found) : Test → Bool
  | .always value => value
  | .fits subject p =>
    match subject with
    | .name => p.fits (wide f.name)
    | .path => p.fits (wide f.path)
    | .target => match f.node.content with
      | .link target => p.fits target
      | _ => false
  | .matches e =>
    let t := (wide f.path).toArray
    match e.find? t 0 with
    | some m => m.span = (0, t.size)
    | none => false
  | .kind letters through =>
    let near := Found.kindOf f.node
    let letter := if !through then near
      else if always then
        match s.files.findNumber (pathOf f.path) false with
        | .ok n => ((s.files.node? n).map Found.kindOf).getD near
        | .error _ => near
      else match f.farKind s.files with
        | 'N' => 'l'
        | c => c
    letters.contains letter
  | .empty =>
    match f.node.content with
    | .file octets => octets.isEmpty
    | .directory => isEmptyDirectory s.files f.location
    | _ => false
  | .size unit b => b.holds ((sizeOf f.node + unit - 1) / unit)
  | .links b => b.holds (linkCount s.files f.location f.number)
  | .number b => b.holds f.number
  | .owner b => b.holds 0
  | .age b => b.holds 0
  | .mode m bits => m.holds bits f.node.mode
  | .newer stamp => decide (stamp < f.node.stamp)
  | .same n => f.number = n
  | .usable runs =>
    match nodeAt? s.files true f.location with
    | some (_, _, node) => !(node.content matches .link _) &&
        (!runs || node.isDirectory || node.mode &&& 0o111 != 0)
    | none => false

/-! ### Facts -/

/-- A moment with the parts of its seconds. -/
def momentText (letters : Text) : Text :=
  match letters with
  | ['@'] => "0.0000000000".toList
  | ['+'] => "1970-01-01+00:00:00.0000000000".toList
  | ['S'] => "00.0000000000".toList
  | ['T'] => "00:00:00.0000000000".toList
  | ['X'] => "00:00:00.0000000000".toList
  | [] => "Thu Jan  1 00:00:00.0000000000 1970".toList
  | letters => formatMoment 0 none 3 ('%' :: letters)

/-- The fact about a file that letters stand for. -/
def factText (s : State) (f : Found) (flags : Text) (letters : Text) : Text :=
  match letters with
  | [] => []
  | letter :: more =>
    if "ACT".toList.contains letter then momentText more
    else match letter with
      | 'a' | 'c' | 't' => momentText []
      | 'b' => shown (2 * blocksTaken f.node)
      | 'k' => shown (blocksTaken f.node)
      | 'd' => shown f.depth
      | 'D' => shown 1
      | 'f' => Found.tail f.path
      | 'F' => "overlay".toList
      | 'g' | 'u' => "root".toList
      | 'G' | 'U' => ['0']
      | 'h' => Found.front f.path
      | 'H' => f.start
      | 'i' => shown f.number
      | 'l' => match f.node.content with
        | .link target => narrow target
        | _ => []
      | 'm' => (if flags.contains '#' then ['0'] else []) ++ digitsIn 8 f.node.mode
      | 'M' => modeLetters f.node
      | 'n' => shown (linkCount s.files f.location f.number)
      | 'p' => f.path
      | 'P' => f.below
      | 's' => shown (sizeOf f.node)
      | 'S' => ['1']
      | 'y' => [Found.kindOf f.node]
      | 'Y' => [f.farKind s.files]
      | _ => []

/-- What pieces of a format write about a file. -/
def Piece.written (s : State) (f : Found) : Piece → Text
  | .text t => t
  | .fact flags width precision letters =>
    let t := factText s f flags letters
    let t := match precision with
      | some p => t.take p
      | none => t
    let room := width.getD 0
    let isNumber := letters = ['d'] || letters = ['m']
    if flags.contains '-' then Text.padEnd room t
    else if flags.contains '0' ∧ isNumber then List.replicate (room - t.length) '0' ++ t
    else padStart room t

/-- The line that lists a file with all that is known of it. -/
def listLine (s : State) (f : Found) : Text :=
  padStart 9 (shown f.number) ++ ' ' :: padStart 6 (shown (blocksTaken f.node)) ++
    ' ' :: modeLetters f.node ++
    ' ' :: padStart 3 (shown (linkCount s.files f.location f.number)) ++
    " root     root     ".toList ++ padStart 8 (shown (sizeOf f.node)) ++ " Jan  1  1970 ".toList ++
    f.path ++ (match f.node.content with
      | .link target => " -> ".toList ++ narrow target
      | _ => []) ++ ['\n']

/-! ### Actions -/

/-- Where a search stands. -/
structure Progress where
  /-- Whether what is in the directory is passed over. -/
  prunes : Bool := false
  /-- Whether the search has ended. -/
  quits : Bool := false
  /-- The status so far. -/
  status : Nat := 0
  /-- The commands that are run for many files, by number, with their directory and the paths so
  far, the latest first. -/
  gathered : List (Nat × Call × Text × List Text) := []

/-- A step of a search. -/
abbrev Step := StateT Progress Act

/-- Tells a fault, which counts for the status. -/
def fault (message : Text) : Step Unit := do
  tellOf "find" message
  modify fun p ↦ { p with status := 1 }

/-- Writes a text to a place. -/
def writeAt (place : Place) (t : Text) : Step Unit := do
  match place with
  | none => put t
  | some name =>
    match ← writeFile .appending name t with
    | .ok () => return
    | .error f => fault (curled name ++ ": ".toList ++ f.words)

section Running

variable (launch : Launch) (run : Runner)

/-- Runs a command in a directory, and gives its status, or the fault that keeps it from running. -/
def runCommand (directory : Text) (words : List Text) : Act (Except LaunchFault Nat) := do
  let name := words.headD []
  let (status, signal?) ← inProcess run name false do
    match (← get).files.enter (pathOf directory) with
    | .ok files => modify fun s ↦ { s with files }
    | .error _ => pure ()
    match ← launch name (words.drop 1) with
    | .ok status => return status
    | .error f =>
      tellOf "find" (curled name ++ ": ".toList ++ f.words)
      modify fun s ↦ { s with status := f.status + 1000 }
      throw .exits
  if 1000 ≤ status then return .error .unknown
  else return .ok (if signal?.isSome then 1 else status)

/-- Runs a command for the paths that have been gathered for it. -/
def flush (number : Nat) : Step Unit := do
  let p ← get
  match p.gathered.lookup number with
  | some (c, directory, paths) =>
    set { p with gathered := p.gathered.filter (·.1 != number) }
    match ← runCommand launch run directory (c.words ++ paths.reverse) with
    | .ok 0 => return
    | _ => modify fun p ↦ { p with status := 1 }
  | none => return

/-- The path of a file as a command gets it, and the directory in which that runs. -/
def Call.place (c : Call) (f : Found) : Text × Text :=
  if c.within then
    let name := Found.tail f.path
    (if f.path = ['/'] then ['/'] else "./".toList ++ name,
      if Found.front f.path = [] then ['/'] else Found.front f.path)
  else (f.path, ['.'])

/-- Runs a command for one file, and gives whether it has succeeded. -/
def runFor (c : Call) (f : Found) : Step Bool := do
  let (path, directory) := c.place f
  let words := c.words.map (replaceMark pathMark path)
  if c.asks then
    let question := "< ".toList ++ c.words.headD [] ++ " ... ".toList ++ f.path ++ " > ? ".toList
    if !(← asksFor question) then return false
  match ← runCommand launch run directory words with
  | .ok status => return status = 0
  | .error _ => return false

/-- Removes a file, and gives whether that was possible. The working directory stays. -/
def removeFound (f : Found) : Step Bool := do
  if f.path = ['.'] then return true
  let files := (← getThe State).files
  let l := (files.locate (pathOf f.path) false).toOption.getD f.location
  if f.node.isDirectory ∧ !isEmptyDirectory files l then
    fault ("cannot delete ".toList ++ curled f.path ++ ": Directory not empty".toList)
    return false
  else
    modifyThe State fun s ↦ { s with files := s.files.drop l }
    return true

/-- Does what an action says for a file, and gives whether it holds. -/
def act (f : Found) : Action → Step Bool
  | .print ending place => do
    writeAt place (f.path ++ [ending])
    return true
  | .format pieces place => do
    let s ← getThe State
    writeAt place (pieces.flatMap (Piece.written s f))
    return true
  | .list place => do
    writeAt place (listLine (← getThe State) f)
    return true
  | .delete => removeFound f
  | .prune => do
    modify fun p ↦ { p with prunes := true }
    return true
  | .quit => do
    modify fun p ↦ { p with quits := true }
    return true
  | .run c => runFor launch run c f
  | .gather number c => do
    let (path, directory) := c.place f
    match (← get).gathered.lookup number with
    | some (_, old, _) => if old ≠ directory then flush launch run number
    | none => pure ()
    modify fun p ↦
      let paths := ((p.gathered.lookup number).map fun e ↦ e.2.2).getD []
      { p with gathered := (number, c, directory, path :: paths) ::
          p.gathered.filter (·.1 != number) }
    return true

/-- Puts a query to a file, unless the search has ended, and gives whether it holds. -/
def ask (always : Bool) (f : Found) : FileQuery → Step Bool
  | .test t => return t.holds (← getThe State) always f
  | .action a => act launch run f a
  | .negated q => do
    let value ← ask always f q
    return !value
  | .both left right => do
    if ← ask always f left then
      if (← get).quits then return true else ask always f right
    else return false
  | .either left right => do
    if ← ask always f left then return true
    else if (← get).quits then return false
    else ask always f right
  | .list left right => do
    let _ ← ask always f left
    if (← get).quits then return true else ask always f right

/-! ### Walks -/

/-- Tells that a file is not there any more, or has never been. -/
def tellMissing (path : Text) (f : FileFault) : Step Unit :=
  fault (curled path ++ ": ".toList ++ f.words)

/-- Goes through a file and all below it, down to a depth of directories. -/
def walk (s : Search) (q : FileQuery) (start : Text) :
    Nat → List (Nat × Text) → Nat → Text → Location → Step Unit
  | 0, _, _, _, _ => return
  | n + 1, above, depth, path, l => do
    if (← get).quits then return
    let files := (← getThe State).files
    let through := s.links = .always || (s.links = .atStart && depth = 0)
    match nodeAt? files through l with
    | none => tellMissing path .missing
    | some (place, number, node) =>
      let f : Found := ⟨path, start, depth, place, number, node⟩
      match if node.isDirectory then above.lookup number else none with
      | some upper =>
        fault ("File system loop detected; ".toList ++ curled path ++
          " is part of the same file system loop as ".toList ++ curled upper ++ ['.'])
      | none =>
        let put : Step Unit := do
          if s.minDepth ≤ depth then
            let _ ← ask launch run (s.links = .always) f q
        modify fun p ↦ { p with prunes := false }
        if !s.inside then put
        let p ← get
        let isDeep := s.maxDepth.any fun most ↦ most ≤ depth
        if node.isDirectory ∧ !isDeep ∧ !p.quits ∧ (s.inside ∨ !p.prunes) then
          let files := (← getThe State).files
          if (files.number? place).isNone then tellMissing path .missing
          else for name in namesIn files place do
            walk s q start n ((number, path) :: above) (depth + 1) (pathIn path name)
              (place ++ [wide name])
        if s.inside ∧ !(← get).quits then put

/-- Starts a search at a path. -/
def walkFrom (s : Search) (q : FileQuery) (start : Text) : Step Unit := do
  let files := (← getThe State).files
  let found : Except FileFault Location :=
    if start.isEmpty then .error .missing
    else files.locate (pathOf start) (endsWithSlash start)
  match found with
  | .error f => tellMissing start f
  | .ok l =>
    match (files.number? l).bind files.node? with
    | none => tellMissing start .missing
    | some node =>
      if endsWithSlash start ∧ !node.isDirectory then tellMissing start .notDirectory
      else walk launch run s q start maxTreeDepth [] 0 start l

/-- Carries out a search, and then the commands for which files have been gathered. -/
def search (s : Search) (q : FileQuery) : Step Unit := do
  for start in s.starts do
    if !(← get).quits then walkFrom launch run s q start
  for number in List.range s.gatherings do flush launch run number

end Running

end FileQuery

/-- The program `find`. -/
def findFiles (launch : Launch) (run : Runner) : Utility := fun arguments ↦ do
  match FileQuery.readSearch (← get).files arguments with
  | .error message => failOf "find" 1 message
  | .ok (s, q) =>
    for t in s.told.reverse do tellOf "find" t
    for name in s.places.reverse do
      match ← writeFile .writing name [] with
      | .ok () => pure ()
      | .error f => return ← failOf "find" 1 (curled name ++ ": ".toList ++ f.words)
    let ((), p) ← (FileQuery.search launch run s q).run {}
    return p.status

end CommandScript.Shell
