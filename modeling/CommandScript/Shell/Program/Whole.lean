import CommandScript.Shell.Expression
import CommandScript.Shell.Program.Basic

/-!
# Programs that write whole texts

These programs write all of what they read: as it is, with signs for what does not show, with
numbers before the lines, with the lines or the characters turned around, or to several places.
-/
namespace CommandScript.Shell

/-! ### Copying to the output -/

/-- How `cat` writes texts. -/
structure Rendering where
  /-- Whether lines get numbers, even if there is nothing in them. -/
  numbers : Bool
  /-- Whether lines with something in them get numbers. -/
  counts : Bool
  /-- Whether a row of empty lines is written as one. -/
  squeezes : Bool
  /-- Whether the ends of lines are shown. -/
  ends : Bool
  /-- Whether tabs are shown. -/
  tabs : Bool
  /-- Whether other characters that do not show are shown by signs. -/
  signs : Bool

/-- Where the writing of texts stands. -/
structure RenderState where
  /-- The number of the last line. -/
  number : Nat
  /-- How many line feeds have come since anything else, or nothing within a line. -/
  feeds : Option Nat

/-- An octet by signs, where it does not show. -/
def octetSigns (c : Char) : Text :=
  let low (n : Nat) : Text :=
    if n < 32 then ['^', Char.ofNat (n + 64)] else if n = 127 then "^?".toList else [Char.ofNat n]
  if c.toNat < 128 then low c.toNat else "M-".toList ++ low (c.toNat - 128)

/-- The number of a line in front of it. -/
def lineMark (n : Nat) : Text := padStart 6 (shown n) ++ ['\t']

namespace Rendering

/-- What is written for a character, and where the writing then stands. -/
def step (r : Rendering) (s : RenderState) (c : Char) (next : Option Char) : Text × RenderState :=
  let numbered := r.numbers || r.counts
  if c = '\n' then
    let ending : Text := if r.ends then ['$', '\n'] else ['\n']
    match s.feeds with
    | none => (ending, { s with feeds := some 0 })
    | some n =>
      if 0 < n ∧ r.squeezes then ([], s)
      else if r.numbers ∧ !r.counts then
        (lineMark (s.number + 1) ++ ending, ⟨s.number + 1, some (n + 1)⟩)
      else (ending, { s with feeds := some (n + 1) })
  else
    let opens := s.feeds.isSome && numbered
    let number := if opens then s.number + 1 else s.number
    let mark := if opens then lineMark number else []
    let t := if c = '\t' then (if r.tabs then "^I".toList else [c])
      else if r.signs ∨ (c = '\r' ∧ r.ends ∧ next = some '\n') then octetSigns c else [c]
    (mark ++ t, ⟨number, none⟩)

/-- What is written for a text, in reverse, and where the writing then stands. -/
def run (r : Rendering) : RenderState → Text → Text → Text × RenderState
  | s, written, [] => (written, s)
  | s, written, c :: rest =>
    let (t, s) := r.step s c rest.head?
    run r s (t.reverse ++ written) rest

end Rendering

/-- The node that a name leads to and how much of it has been read, where it is a file. -/
def sourceOf? (s : State) (name : Text) : Option (Nat × Nat) :=
  if name = ['-'] then
    match s.conduitAt? 0 with
    | some (.file node offset _ _ _) => some (node, offset)
    | _ => none
  else match s.files.findNumber (pathOf name) with
    | .ok n => some (n, 0)
    | .error _ => none

/-- Whether what a name leads to would be copied to its own end. -/
def copiesItself (s : State) (name : Text) : Bool :=
  match sourceOf? s name, s.conduitAt? 1 with
  | some (node, start), some (.file target offset _ _ appends) =>
    let size := ((s.files.octets? node).map List.length).getD 0
    node = target && decide (start < if appends then size else offset)
  | _, _ => false

/-- The program `cat`. -/
def copyTexts : Utility :=
  let form : OptionForm := {
    name := "cat", plain := "AbeEnstTuv"
    long := [("show-all", 'A'), ("number-nonblank", 'b'), ("show-ends", 'E'), ("number", 'n'),
      ("squeeze-blank", 's'), ("show-tabs", 'T'), ("show-nonprinting", 'v')] }
  fun arguments ↦ form.choose arguments fun c ↦ do
    let r : Rendering := {
      numbers := c.has 'n', counts := c.has 'b', squeezes := c.has 's'
      ends := c.has 'E' || c.has 'A' || c.has 'e', tabs := c.has 'T' || c.has 'A' || c.has 't'
      signs := c.has 'v' || c.has 'A' || c.has 'e' || c.has 't' }
    let isPlain := c.given.all fun e ↦ e.1 = 'u'
    let mut s : RenderState := ⟨0, some 0⟩
    let mut status := 0
    for name in orInput c.others do
      if copiesItself (← get) name then
        tellOf "cat" (shownFile name ++ ": input file is output file".toList)
        status := 1
      else match ← readInput name with
        | .error f =>
          tellOf "cat" (fileFault name f)
          status := 1
        | .ok t =>
          if isPlain then put t
          else
            let (written, after) := r.run s [] t
            s := after
            put written.reverse
    return status

/-! ### Turning around -/

/-- The parts of a text that end with a separator, or begin with it. -/
def separated (separator : Text) (inFront : Bool) (t : Text) : List Text :=
  let parts := partsOf (t.length + 1) [] t
  if inFront then
    match parts with
    | [] => []
    | first :: rest => (if first.isEmpty then [] else [first]) ++ rest.map (separator ++ ·)
  else
    let whole := parts.dropLast.map (· ++ separator)
    match parts.getLast? with
    | some [] => whole
    | some last => whole ++ [last]
    | none => whole
where
  /-- The parts of a text between separators, after one that is being read. -/
  partsOf : Nat → Text → Text → List Text
    | 0, part, _ => [part.reverse]
    | _, part, [] => [part.reverse]
    | n + 1, part, c :: rest =>
      match Text.dropStart? separator (c :: rest) with
      | some after => part.reverse :: partsOf n [] after
      | none => partsOf n (c :: part) rest

/-- The program `tac`. -/
def copyBackwards : Utility :=
  let form : OptionForm := {
    name := "tac", plain := "br", valued := "s"
    long := [("before", 'b'), ("regex", 'r'), ("separator", 's')] }
  fun arguments ↦ form.choose arguments fun c ↦ do
    let separator := (c.value? 's').getD ['\n']
    let words (name : Text) (f : FileFault) : Text :=
      if f = .isDirectory then shownFile name ++ ": read error: ".toList ++ f.words
      else "failed to open ".toList ++ quotedName name ++ " for reading: ".toList ++ f.words
    let isWhole ← eachInput "tac" words c.others fun _ t ↦
      put (separated separator (c.has 'b') t).reverse.flatten
    return if isWhole then 0 else 1

/-- The program `rev`. -/
def copyTurned : Utility :=
  let form : OptionForm := { name := "rev" }
  fun arguments ↦ form.choose arguments fun c ↦ do
    let words (name : Text) (f : FileFault) : Text :=
      (if f = .isDirectory then name else "cannot open ".toList ++ name) ++ ": ".toList ++ f.words
    let isWhole ← eachInput "rev" words c.others fun _ t ↦
      put ((wholeLines '\n' t).flatMap fun line ↦
        if line.getLast? = some '\n' then narrow (wide line.dropLast).reverse ++ ['\n']
        else narrow (wide line).reverse)
    return if isWhole then 0 else 1

/-! ### Numbers before lines -/

/-- Which lines of a part of a text get numbers. -/
inductive Numbered where
  /-- All lines. -/
  | all
  /-- Lines with something in them. -/
  | filled
  /-- No lines. -/
  | none
  /-- Lines in which an expression occurs. -/
  | found (e : Expression)

/-- The lines that a style of `nl` gives numbers to. -/
def Numbered.ofStyle? : Text → Option Numbered
  | ['a'] => some .all
  | ['t'] => some .filled
  | ['n'] => some .none
  | 'p' :: source => (Expression.read .basic (wide source)).toOption.map .found
  | _ => Option.none

/-- Whether a line gets a number. -/
def Numbered.takes (n : Numbered) (line : Text) : Bool :=
  match n with
  | .all => true
  | .filled => !line.isEmpty
  | .none => false
  | .found e => e.occurs (wide line)

/-- How `nl` numbers lines. -/
structure LineNumbering where
  /-- The lines of the header, of the body and of the footer that get numbers. -/
  parts : List Numbered
  /-- The first number. -/
  start : Int
  /-- The difference between a number and the next one. -/
  step : Int
  /-- How many empty lines count as one. -/
  join : Nat
  /-- The width of the numbers. -/
  width : Nat
  /-- The name of the form of the numbers. -/
  form : String
  /-- What stands between a number and its line. -/
  separator : Text
  /-- The two characters of which the lines between parts are made. -/
  delimiter : Text
  /-- Whether numbers go on over the parts. -/
  goesOn : Bool

namespace LineNumbering

/-- A number in front of a line. -/
def mark (x : LineNumbering) (n : Int) : Text :=
  let digits := Text.ofInt n
  match x.form with
  | "ln" => digits ++ List.replicate (x.width - digits.length) ' '
  | "rz" =>
    if n < 0 then '-' :: List.replicate (x.width - digits.length) '0' ++ digits.drop 1
    else List.replicate (x.width - digits.length) '0' ++ digits
  | _ => padStart x.width digits

/-- Numbers lines in a part of the text, from a number on and after some empty lines. -/
def run (x : LineNumbering) : Nat → Int → Nat → List Text → Text
  | _, _, _, [] => []
  | part, n, blanks, line :: rest =>
    let part? : Option Nat :=
      if x.delimiter.isEmpty then Option.none
      else if line = x.delimiter ++ x.delimiter ++ x.delimiter then some 0
      else if line = x.delimiter ++ x.delimiter then some 1
      else if line = x.delimiter then some 2 else Option.none
    match part? with
    | some part => '\n' :: run x part (if x.goesOn then n else x.start) 0 rest
    | none =>
      let blanks := if line.isEmpty then blanks + 1 else 0
      let takes := (x.parts.getD part .none).takes line && (!line.isEmpty || blanks % x.join = 0)
      if takes then
        x.mark n ++ x.separator ++ line ++ '\n' :: run x part (n + x.step) blanks rest
      else
        List.replicate (x.width + x.separator.length) ' ' ++
          line ++ '\n' :: run x part n blanks rest

end LineNumbering

/-- The program `nl`. -/
def numberLines : Utility :=
  let form : OptionForm := {
    name := "nl", plain := "p", valued := "bdfhilnsvw"
    long := [("body-numbering", 'b'), ("section-delimiter", 'd'), ("footer-numbering", 'f'),
      ("header-numbering", 'h'), ("line-increment", 'i'), ("join-blank-lines", 'l'),
      ("number-format", 'n'), ("no-renumber", 'p'), ("number-separator", 's'),
      ("starting-line-number", 'v'), ("number-width", 'w')] }
  fun arguments ↦ form.choose arguments fun c ↦ do
    let style (letter : Char) (default : Text) : Option Numbered :=
      Numbered.ofStyle? ((c.value? letter).getD default)
    let whole (letter : Char) (default : Int) : Option Int :=
      match c.value? letter with
      | some t => wholeNumber? t
      | none => some default
    let wrong (kind : String) (letter : Char) : Act Nat :=
      failOf "nl" 1 ("invalid ".toList ++ kind.toList ++ ": ".toList ++
        curled ((c.value? letter).getD []))
    match style 'h' ['n'], style 'b' ['t'], style 'f' ['n'] with
    | some header, some body, some footer =>
      match whole 'v' 1, whole 'i' 1, (numberOf? c 'l' 1).filter (0 < ·),
          (numberOf? c 'w' 6).filter (0 < ·) with
      | some start, some step, some join, some width =>
        let x : LineNumbering := {
          parts := [header, body, footer], start, step, join, width
          form := String.ofList ((c.value? 'n').getD "rn".toList)
          separator := (c.value? 's').getD ['\t']
          delimiter := (match c.value? 'd' with
            | some [single] => [single, ':']
            | some t => t
            | none => "\\:".toList)
          goesOn := c.has 'p' }
        if !(["ln", "rn", "rz"].contains x.form) then
          form.misuse ("invalid line numbering format: ".toList ++ curled x.form.toList)
        else
          let (inputs, isWhole) ← readInputs "nl" fileFault c.others
          put (x.run 1 start 0 (linesOf (inputs.flatMap (·.2))))
          return if isWhole then 0 else 1
      | none, _, _, _ => wrong "starting line number" 'v'
      | _, none, _, _ => wrong "line number increment" 'i'
      | _, _, none, _ => wrong "line number of blank lines" 'l'
      | _, _, _, none => wrong "line number field width" 'w'
    | none, _, _ => form.misuse ("invalid header numbering style: ".toList ++
        curled ((c.value? 'h').getD []))
    | _, none, _ => form.misuse ("invalid body numbering style: ".toList ++
        curled ((c.value? 'b').getD []))
    | _, _, none => form.misuse ("invalid footer numbering style: ".toList ++
        curled ((c.value? 'f').getD []))

/-! ### Copying to files -/

/-- The program `tee`. -/
def copyToFiles : Utility :=
  let form : OptionForm := {
    name := "tee", plain := "aip"
    long := [("append", 'a'), ("ignore-interrupts", 'i'), ("output-error", 'p')] }
  fun arguments ↦ form.choose arguments fun c ↦ do
    let mode : OpenMode := if c.has 'a' then .appending else .writing
    let mut conduits : List Nat := []
    let mut status := 0
    for name in c.others do
      match ← openConduit mode name with
      | .ok conduit => conduits := conduit :: conduits
      | .error f =>
        tellOf "tee" (fileFault name f)
        status := 1
    match ← readAll 0 with
    | .ok t =>
      put t
      for conduit in conduits.reverse do
        if let some p := (← get).conduits.lookup conduit then
          let _ ← if t.isEmpty then pure true else writeToConduit conduit p t
      return status
    | .error f => failOf "tee" 1 ("read error: ".toList ++ f.words)

end CommandScript.Shell
