import CommandScript.Shell.Calendar
import CommandScript.Shell.Program.Order
import CommandScript.Shell.Program.Tree

/-!
# Programs that list files

What directories hold, one name in a line or with all that is known of each; single facts about
files; and how much room they take.
-/
namespace CommandScript.Shell

/-! ### Facts about nodes -/

/-- The octets of a node; a directory has as many as a block. -/
def sizeOf (node : FileStore.Node) : Nat :=
  match node.content with
  | .file octets => octets.length
  | .directory => 4096
  | .link target => (narrow target).length
  | .device => 0

/-- The blocks of 1024 octets that a node takes. -/
def blocksTaken (node : FileStore.Node) : Nat :=
  match node.content with
  | .file octets => (octets.length + 4095) / 4096 * 4
  | .directory => 4
  | _ => 0

/-- The letter for the kind of a node in a list. -/
def kindLetter (node : FileStore.Node) : Char :=
  match node.content with
  | .file _ => '-'
  | .directory => 'd'
  | .link _ => 'l'
  | .device => 'c'

/-- The permissions of a node by letters, with its kind in front. -/
def modeLetters (node : FileStore.Node) : Text :=
  let letter (k : Nat) : Char :=
    let isSet := node.mode / Nat.pow 2 (8 - k) % 2 = 1
    let special (bit : Nat) (yes no : Char) : Char :=
      if node.mode / bit % 2 = 1 then (if isSet then yes else no)
      else if isSet then 'x' else '-'
    match k with
    | 2 => special 0o4000 's' 'S'
    | 5 => special 0o2000 's' 'S'
    | 8 => special 0o1000 't' 'T'
    | k => if isSet then "rwx".toList.getD (k % 3) '-' else '-'
  kindLetter node :: (List.range 9).map letter

/-- How many names lead to a node. -/
def linkCount (files : FileStore) (l : Location) (n : Nat) : Nat :=
  match (files.node? n).map FileStore.Node.content with
  | some .directory =>
    2 + (files.entries.countP fun e ↦
      e.1.length == l.length + 1 && FileStore.isBelow l e.1 &&
        ((files.node? e.2).map (·.isDirectory)).getD false)
  | _ => files.entries.countP fun e ↦ e.2 = n

/-! ### Lists -/

/-- A file in a list. -/
structure Listed where
  /-- The name under which it is shown. -/
  name : Text
  /-- Where it is. -/
  location : Location
  /-- The number of its node. -/
  number : Nat
  /-- Its node. -/
  node : FileStore.Node

/-- What is at a location under a name, if anything is. -/
def listedAt? (files : FileStore) (l : Location) (name : Text) : Option Listed :=
  (files.number? l).bind fun n ↦ (files.node? n).map fun node ↦ ⟨name, l, n, node⟩

namespace Listed

/-- The sign behind a name that shows what kind it is of. -/
def mark (c : Choices) (e : Listed) : Text :=
  match e.node.content with
  | .directory => if c.has 'F' ∨ c.has 'p' then ['/'] else []
  | .link _ => if c.has 'F' ∧ !c.has 'l' then ['@'] else []
  | .file _ => if c.has 'F' ∧ e.node.mode &&& 0o111 != 0 then ['*'] else []
  | .device => []

/-- The name as options show it. -/
def title (c : Choices) (e : Listed) : Text :=
  let escaped (o : Char) : Text := if o = '"' ∨ o = '\\' then ['\\', o] else [o]
  (if c.has 'Q' then '"' :: e.name.flatMap escaped ++ ['"']
    else if c.has 'q' then e.name.map fun o ↦ if o < ' ' ∨ o = '\x7F' then '?' else o
    else e.name) ++ e.mark c

/-- The order of two files in a list. -/
def order (c : Choices) (a b : Listed) : Ordering :=
  let names := compareOctets a.name b.name
  let order := match c.last? "tSXvf" with
    | some 't' => (compare b.node.stamp a.node.stamp).then names
    | some 'S' => (compare (sizeOf b.node) (sizeOf a.node)).then names
    | some 'X' =>
      let ending (t : Text) : Text :=
        if t.contains '.' then (t.reverse.takeWhile (· != '.')).reverse else []
      (compareOctets (ending a.name) (ending b.name)).then names
    | some 'v' => (compareVersions a.name b.name).then names
    | _ => names
  let order := if c.has 'r' then order.swap else order
  if c.has 'g' then
    (compare (if a.node.isDirectory then 0 else 1) (if b.node.isDirectory then 0 else 1)).then order
  else order

/-- A size with a letter for how large it is. -/
def humanSize (n : Nat) : Text :=
  if n < 1024 then shown n
  else
    let power := ((List.range 6).reverse.find? fun i ↦ Nat.pow 1024 (i + 1) ≤ n).getD 0
    let unit := Nat.pow 1024 (power + 1)
    let tenth := (n * 10 + unit - 1) / unit
    let letter := "KMGTPE".toList.getD power 'K'
    if tenth < 100 then shown (tenth / 10) ++ '.' :: shown (tenth % 10) ++ [letter]
    else shown ((n + unit - 1) / unit) ++ [letter]

/-- The facts that stand before a name in a long list. -/
def facts (c : Choices) (files : FileStore) (e : Listed) : List Text :=
  let owner (letter : Char) : List Text := if c.has letter then [] else
    [if c.has 'n' then ['0'] else "root".toList]
  [modeLetters e.node, shown (linkCount files e.location e.number)] ++ owner 'O' ++
    (if c.has 'o' ∨ c.has 'G' then [] else owner 'N') ++
    [match e.node.content with
      | .device => "1, 3".toList
      | _ => if c.has 'h' then humanSize (sizeOf e.node) else shown (sizeOf e.node)]

/-- The rows of files in a list. -/
def rows (c : Choices) (files : FileStore) (es : List Listed) : List Text :=
  let front (e : Listed) : List Text :=
    (if c.has 'i' then [shown e.number] else []) ++
      (if c.has 's' then [shown (blocksTaken e.node)] else [])
  let fronts := es.map front
  let facts := es.map (facts c files)
  let width (rows : List (List Text)) (i : Nat) : Nat :=
    (rows.map fun row ↦ (row.getD i []).length).foldl max 0
  let line (e : Listed) (front facts : List Text) : Text :=
    let front := front.zipIdx.flatMap fun (t, i) ↦ padStart (width fronts i) t ++ [' ']
    if c.has 'l' then
      let cells := facts.zipIdx.map fun (t, i) ↦
        let room := width (es.map (Listed.facts c files)) i
        if i = 0 then t
        else if i = 1 ∨ i + 1 = facts.length then padStart room t
        else Text.padEnd room t
      front ++ [' '].intercalate cells ++ " Jan  1  1970 ".toList ++ e.title c ++
        match e.node.content with
        | .link target => " -> ".toList ++ narrow target
        | _ => []
    else front ++ e.title c
  (es.zip (fronts.zip facts)).map fun (e, front, facts) ↦ line e front facts

/-- A list of files as a text. -/
def write (c : Choices) (files : FileStore) (es : List Listed) : Text :=
  let es := es.mergeSort fun a b ↦ order c a b != .gt
  let rows := rows c files es
  if c.has 'm' ∧ !c.has 'l' then
    if rows.isEmpty then [] else ", ".toList.intercalate rows ++ ['\n']
  else ofLines rows

end Listed

/-- The files in a directory that a list shows. -/
def listedIn (c : Choices) (files : FileStore) (l : Location) : List Listed :=
  let all := c.has 'a' || c.has 'f'
  let names := (namesIn files l).filter fun name ↦
    (all || c.has 'A' || name.head? != some '.') &&
      !(c.has 'B' && name.getLast? = some '~') &&
      !((c.values 'I').any fun t ↦ (Pattern.of false (Marked.ofText true t)).fits (wide name))
  let found := names.filterMap fun name ↦
    let place := l ++ [wide name]
    let place := if c.has 'L' then
        ((files.follow true FileStore.maxLinks l [wide name]).toOption.filter fun l ↦
          (files.number? l).isSome).getD place
      else place
    listedAt? files place name
  (if all then (listedAt? files l ['.']).toList ++
    (listedAt? files l.dropLast ['.', '.']).toList else []) ++ found

/-- The lists of a directory and, where that is asked for, of all those below it, each with its
heading. -/
def directoryLists (c : Choices) (files : FileStore) (headed : Bool) :
    Nat → Text → Location → List Text
  | 0, _, _ => []
  | n + 1, path, l =>
    let es := listedIn c files l
    let total := if c.has 'l' ∨ c.has 's' then
        "total ".toList ++ shown (sumOf (es.map fun e ↦ blocksTaken e.node)) ++ ['\n'] else []
    let own := (if headed then path ++ ":\n".toList else []) ++ total ++ Listed.write c files es
    let below := if !c.has 'R' then [] else
      ((es.filter fun e ↦ e.node.isDirectory && e.name != ['.'] && e.name != ['.', '.']).mergeSort
        fun a b ↦ Listed.order c a b != .gt).flatMap fun e ↦
          directoryLists c files headed n (pathIn path e.name) e.location
    own :: below

/-- The options of `ls`. -/
def listForm : OptionForm := {
  name := "ls", plain := "1aAlfdrRtSUXviskFphnoGgNQqmxCLHBucVOb", valued := "IwTK", failure := 2
  long := [("all", 'a'), ("almost-all", 'A'), ("directory", 'd'), ("reverse", 'r'),
    ("recursive", 'R'), ("inode", 'i'), ("size", 's'), ("classify", 'F'), ("human-readable", 'h'),
    ("numeric-uid-gid", 'n'), ("no-group", 'G'), ("literal", 'N'), ("quote-name", 'Q'),
    ("hide-control-chars", 'q'), ("dereference", 'L'), ("ignore-backups", 'B'), ("ignore", 'I'),
    ("width", 'w'), ("group-directories-first", 'g'), ("escape", 'b')] }

/-- The options of `ls` in the letters that are known here: some of its letters say two things. -/
def knownListOptions (c : Choices) : Choices :=
  { c with given := c.given.flatMap fun e ↦ match e.1 with
    | 'n' => [('l', none), e]
    | 'o' => [('l', none), e]
    | 'f' => [('a', none), e]
    | 'N' => []
    | _ => [e] }

/-- Arguments of `ls` in which the long options for colours and orders have become short ones. -/
def withListWords (arguments : List Text) : List Text := arguments.flatMap fun t ↦
  if "--color".toList.isPrefixOf t ∨ "--time".toList.isPrefixOf t ∨
      "--indicator-style=none".toList = t ∨ "--quoting-style=literal".toList = t ∨
      "--full-time".toList = t then []
  else match String.ofList t with
    | "--sort=size" => ["-S".toList]
    | "--sort=time" => ["-t".toList]
    | "--sort=none" => ["-U".toList]
    | "--sort=extension" => ["-X".toList]
    | "--sort=version" => ["-v".toList]
    | "--sort=name" => []
    | "--format=single-column" => ["-1".toList]
    | "--format=long" => ["-l".toList]
    | "--format=commas" => ["-m".toList]
    | "--file-type" => ["-p".toList]
    | "-g" => ["-lO".toList]
    | "--group-directories-first" => ["--group-directories-first".toList]
    | _ => [t]

/-- The program `ls`. -/
def listFiles : Utility := fun arguments ↦ listForm.choose (withListWords arguments) fun c ↦ do
  let c := knownListOptions c
  let files := (← get).files
  let names := if c.others.isEmpty then [['.']] else c.others
  let mut plain : List Listed := []
  let mut directories : List Listed := []
  let mut status := 0
  for name in names do
    let keepsLink := (c.has 'l' || c.has 'd' || c.has 'F') && !c.has 'L' && !c.has 'H' &&
      !endsWithSlash name
    let follow : Bool := !(keepsLink &&
      (match files.find (pathOf name) false with | .ok (.link _) => true | _ => false))
    let found : Except FileFault Listed :=
      if name.isEmpty then .error .missing
      else match files.locate (pathOf name) follow with
        | .error f => .error f
        | .ok l =>
          match listedAt? files l name with
          | some e =>
            if endsWithSlash name ∧ !e.node.isDirectory then .error .notDirectory else .ok e
          | none => match (files.locate (pathOf name) false).toOption.bind fun l ↦
              listedAt? files l name with
            | some e => .ok e
            | none => .error .missing
    match found with
    | .error f =>
      tellOf "ls" (quotedFault "cannot access " name f.words)
      status := 2
    | .ok e =>
      if e.node.isDirectory ∧ !c.has 'd' then directories := directories ++ [e]
      else plain := plain ++ [e]
  let headed := 1 < names.length || c.has 'R'
  let sorted := directories.mergeSort fun a b ↦ Listed.order c a b != .gt
  let lists := sorted.flatMap fun e ↦ directoryLists c files headed maxTreeDepth e.name e.location
  let own := if plain.isEmpty then [] else [Listed.write c files plain]
  put (['\n'].intercalate (own ++ lists))
  return status

/-! ### Single facts -/

/-- What a letter of a format of `stat` stands for. -/
def factOf (files : FileStore) (e : Listed) (letter : Char) : Text :=
  let time := "1970-01-01 00:00:00.000000000 +0000".toList
  match letter with
  | 'n' => e.name
  | 'N' => quotedName e.name ++ match e.node.content with
    | .link target => " -> ".toList ++ quotedName (narrow target)
    | _ => []
  | 's' => shown (sizeOf e.node)
  | 'a' => digitsIn 8 e.node.mode
  | 'A' => modeLetters e.node
  | 'F' => kindName e.node
  | 'h' => shown (linkCount files e.location e.number)
  | 'i' => shown e.number
  | 'u' => ['0']
  | 'g' => ['0']
  | 'U' => "root".toList
  | 'G' => "root".toList
  | 'b' => shown (2 * blocksTaken e.node)
  | 'B' => "512".toList
  | 'o' => "4096".toList
  | 'f' => digitsIn 16 (e.node.mode + match e.node.content with
    | .file _ => 0o100000
    | .directory => 0o40000
    | .link _ => 0o120000
    | .device => 0o20000)
  | 'X' => ['0']
  | 'Y' => ['0']
  | 'Z' => ['0']
  | 'W' => ['0']
  | 'x' => time
  | 'y' => time
  | 'z' => time
  | 'w' => ['-']
  | '%' => ['%']
  | _ => ['?']

/-- A format of `stat` with the facts about a file in it. -/
def writeFacts (files : FileStore) (e : Listed) (escapes : Bool) : Nat → Text → Text
  | 0, _ => []
  | _, [] => []
  | n + 1, '\\' :: rest =>
    if escapes then
      let found := escapeAfter .quoted rest
      found.octets ++ writeFacts files e escapes n found.rest
    else '\\' :: writeFacts files e escapes n rest
  | n + 1, '%' :: rest =>
    let flags := rest.takeWhile fun c ↦ "-0 +#".toList.contains c
    let width := (rest.drop flags.length).takeWhile Char.isDigit
    match rest.drop (flags.length + width.length) with
    | letter :: after =>
      let t := factOf files e letter
      let room := Text.digitsValue width
      (if flags.contains '-' then Text.padEnd room t
        else if flags.contains '0' then List.replicate (room - t.length) '0' ++ t
        else padStart room t) ++ writeFacts files e escapes n after
    | [] => ['%']
  | n + 1, c :: rest => c :: writeFacts files e escapes n rest

/-- The format in which all facts about a file are written. -/
def factFormat : Text :=
  ("  File: %N\n  Size: %-10s\tBlocks: %-10b IO Block: %-6o %F\n" ++
    "Device: 0,0\tInode: %-11i Links: %h\n" ++
    "Access: (%04a/%A)  Uid: (    0/    root)   Gid: (    0/    root)\nAccess: %x\nModify: %y\n" ++
    "Change: %z\n Birth: %w\n").toList

/-- The program `stat`. -/
def tellFacts : Utility :=
  let form : OptionForm := {
    name := "stat", plain := "Lft", valued := "cp"
    long := [("dereference", 'L'), ("format", 'c'), ("printf", 'p'), ("terse", 't'),
      ("file-system", 'f')] }
  fun arguments ↦ form.choose arguments fun c ↦ do
    if c.others.isEmpty then return ← form.misuse "missing operand".toList
    let files := (← get).files
    let mut status := 0
    for name in c.others do
      let found : Except FileFault Listed := match if name.isEmpty then .error .missing
        else files.locate (pathOf name) (c.has 'L' || endsWithSlash name) with
        | .error f => .error f
        | .ok l => match listedAt? files l name with
          | some e => .ok e
          | none => .error .missing
      match found with
      | .error f =>
        tellOf "stat" (quotedFault "cannot statx " name f.words)
        status := 1
      | .ok e =>
        match c.value? 'p', c.value? 'c' with
        | some format, _ => put (writeFacts files e true (format.length + 1) format)
        | none, some format =>
          put (writeFacts files e false (format.length + 1) format ++ ['\n'])
        | none, none => put (writeFacts files e false (factFormat.length + 1) factFormat)
    return status

/-! ### Room -/

/-- The room that is taken at a location and below it, with a line for each directory, or for
everything. -/
def roomLines (c : Choices) (files : FileStore) : Nat → Nat → Text → Location →
    Nat × List (Nat × Text × Nat)
  | 0, _, _, _ => (0, [])
  | n + 1, depth, path, l =>
    match (files.number? l).bind files.node? with
    | none => (0, [])
    | some node =>
      let own := if c.has 'b' then sizeOf node else blocksTaken node * 1024
      let below := if node.isDirectory then (namesIn files l).map fun name ↦
          roomLines c files n (depth + 1) (pathIn path name) (l ++ [wide name]) else []
      let total := own + sumOf (below.map Prod.fst)
      let isShown := node.isDirectory || c.has 'a' || depth = 0
      (total, (below.flatMap Prod.snd) ++ if isShown then [(total, path, depth)] else [])

/-- The program `du`. -/
def tellRoom : Utility :=
  let form : OptionForm := {
    name := "du", plain := "abchHkLlmPsSx0", valued := "BdX"
    long := [("all", 'a'), ("bytes", 'b'), ("total", 'c'), ("human-readable", 'h'),
      ("summarize", 's'), ("max-depth", 'd'), ("apparent-size", 'A'), ("block-size", 'B')] }
  fun arguments ↦ form.choose arguments fun c ↦ do
    let files := (← get).files
    let depth := if c.has 's' then 0 else ((c.value? 'd').bind naturalNumber?).getD maxTreeDepth
    let unit := if c.has 'b' then 1 else if c.has 'm' then 1024 * 1024
      else ((c.value? 'B').bind sizedNumber?).getD 1024
    let shownRoom (n : Nat) : Text :=
      if c.has 'h' then Listed.humanSize n else shown ((n + unit - 1) / unit)
    let mut status := 0
    let mut total := 0
    for name in if c.others.isEmpty then [['.']] else c.others do
      match files.locate (pathOf name) false with
      | .ok l =>
        if (files.number? l).isNone then
          tellOf "du" (quotedFault "cannot access " name FileFault.missing.words)
          status := 1
        else
          let (room, lines) := roomLines c files maxTreeDepth 0 name l
          total := total + room
          put ((lines.filter fun e ↦ e.2.2 ≤ depth).flatMap fun (n, path, _) ↦
            shownRoom n ++ '\t' :: path ++ ['\n'])
      | .error f =>
        tellOf "du" (quotedFault "cannot access " name f.words)
        status := 1
    if c.has 'c' then putLine (shownRoom total ++ "\ttotal".toList)
    return status

end CommandScript.Shell
