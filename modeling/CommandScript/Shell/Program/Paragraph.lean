import CommandScript.Shell.CharacterSet
import CommandScript.Shell.Program.Character

/-!
# Filling lines

Long lines are folded at a width, or the words of a paragraph are put into lines anew so that the
lines together come as close as can be to a width that is a little less than the greatest one.
-/
namespace CommandScript.Shell

/-! ### Folding -/

/-- The column after a character that comes after a column. -/
def foldColumn (octets : Bool) (column : Nat) (c : Char) : Nat :=
  if octets then column + 1
  else if c = '\x08' then column - 1
  else if c = '\r' then 0
  else if c = '\t' then (column / 8 + 1) * 8
  else column + 1

/-- The column after a text that starts at the first one. -/
def columnsOf (octets : Bool) (t : Text) : Nat := t.foldl (foldColumn octets) 0

/-- A line folded at a width, given what of the present part has been passed over, in reverse. -/
def foldLine (octets blanks : Bool) (width : Nat) : Nat → Text → Nat → Text → Text
  | 0, held, _, rest => held.reverse ++ rest
  | _, held, _, [] => held.reverse
  | n + 1, held, column, c :: rest =>
    let next := foldColumn octets column c
    if next ≤ width ∨ held.isEmpty then foldLine octets blanks width n (c :: held) next rest
    else
      let after := held.takeWhile (!isShellBlank ·)
      if blanks ∧ after.length < held.length then
        (held.drop after.length).reverse ++ '\n' ::
          foldLine octets blanks width n after (columnsOf octets after.reverse) (c :: rest)
      else held.reverse ++ '\n' :: foldLine octets blanks width n [] 0 (c :: rest)

/-- Arguments where a number behind a hyphen stands for an option of the width. -/
def withWidthOption (arguments : List Text) : List Text := arguments.map fun t ↦ match t with
  | '-' :: c :: rest => if c.isDigit then "-w".toList ++ c :: rest else t
  | t => t

/-- The program `fold`. -/
def foldLines : Utility :=
  let form : OptionForm := {
    name := "fold", plain := "bs", valued := "w"
    long := [("bytes", 'b'), ("spaces", 's'), ("width", 'w')] }
  fun arguments ↦ form.choose (withWidthOption arguments) fun c ↦ do
    match (numberOf? c 'w' 80).filter (0 < ·) with
    | none =>
      failOf "fold" 1 ("invalid number of columns: ".toList ++ curled ((c.value? 'w').getD []))
    | some width =>
      filterInputs "fold" c.others fun t ↦ (wholeLines '\n' t).flatMap fun line ↦
        let (bare, ending) :=
          if line.getLast? = some '\n' then (line.dropLast, ['\n']) else (line, [])
        foldLine (c.has 'b') (c.has 's') width (3 * bare.length + 1) [] 0 bare ++ ending

/-! ### Paragraphs -/

/-- A word of a paragraph. -/
structure ParagraphWord where
  /-- The word. -/
  text : Text
  /-- How many blanks stand between it and the next one. -/
  space : Nat
  /-- Whether it ends a sentence. -/
  final : Bool
  deriving DecidableEq, Repr

namespace ParagraphWord

/-- Whether a word opens with a sign that opens something. -/
def opens (w : ParagraphWord) : Bool :=
  (w.text.head?.map fun c ↦ "(['\x60\"".toList.contains c).getD false

/-- Whether a word ends with a punctuation mark. -/
def isMarked (w : ParagraphWord) : Bool :=
  (w.text.getLast?.map CharacterSet.isPunctuation).getD false

/-- Whether a text ends with the mark of a sentence, signs that close something aside. -/
def hasPeriod (t : Text) : Bool :=
  let t := t.reverse
  let rest := (t.dropLast.dropWhile fun c ↦ ")]'\"".toList.contains c) ++ t.drop (t.length - 1)
  (rest.head?.map fun c ↦ ".?!".toList.contains c).getD false

/-- The words of a line, where blanks between them are kept or made uniform. -/
def ofLine (uniform : Bool) (line : Text) : List ParagraphWord :=
  go (line.length + 1) (line.dropWhile isShellBlank)
where
  /-- The words of a text that starts with one. -/
  go : Nat → Text → List ParagraphWord
    | 0, _ => []
    | _, [] => []
    | n + 1, t =>
      let word := t.takeWhile (!isShellBlank ·)
      let rest := t.drop word.length
      let blanks := (rest.takeWhile isShellBlank).length
      let after := rest.drop blanks
      let final := hasPeriod word && (after.isEmpty || 1 < blanks)
      let space := if after.isEmpty ∨ uniform then (if final then 2 else 1) else blanks
      ⟨word, space, final⟩ :: go n after

end ParagraphWord

/-- What lines from some word on cost at best, and where the first of them ends. -/
structure LineChoice where
  /-- What it costs. -/
  cost : Int
  /-- How many words are in the first line. -/
  count : Nat
  /-- How long the first line is. -/
  length : Nat
  deriving DecidableEq, Repr

/-- A number times itself. -/
def square (n : Int) : Int := n * n

/-- What it costs that a line is some characters longer or shorter than it should be. -/
def shortCost (n : Int) : Int := square (n * 10)

/-- What it costs that a line is some characters longer or shorter than the next one. -/
def raggedCost (n : Int) : Int := shortCost n / 2

/-- What it costs to start a line with a word, given the two words before it. -/
def startCost (w : ParagraphWord) (before : List ParagraphWord) : Int :=
  let line := square 70
  let behind : Int := match before with
    | [] => 0
    | last :: others =>
      if ParagraphWord.hasPeriod last.text then (if last.final then -(square 50) else square 600)
      else if last.isMarked then -(square 40)
      else if (others.head?.map (·.final)).getD false then square 200 / (last.text.length + 2)
      else 0
  let own : Int := if w.opens then -(square 40)
    else if w.final then square 150 / (w.text.length + 2) else 0
  line + behind + own

/-- The best end of a line among those after its words, from a number of words on. Choices for what
comes after are given in order. -/
def bestLine (goal most : Nat) : Nat → Nat → List ParagraphWord → List LineChoice →
    Option LineChoice → Option LineChoice
  | _, _, [], _, best => best
  | count, length, w :: rest, later, best =>
    let length := length + w.text.length
    let ending : Int := match later with
      | [] => 0
      | next :: after =>
        let ragged := if after.length + 1 = next.count then 0 else raggedCost (length - next.length)
        shortCost (goal - length) + ragged + next.cost
    let found : LineChoice := ⟨ending, count + 1, length⟩
    let best := match best with
      | some b => if found.cost < b.cost then some found else some b
      | none => some found
    let next := length + w.space
    if rest.isEmpty ∨ most ≤ next + (rest.head?.map (·.text.length)).getD 0 then best
    else bestLine goal most (count + 1) next rest (later.drop 1) best

/-- The best choices from every word on, given the words before them in reverse. -/
def lineChoices (goal most indent : Nat) : List ParagraphWord → List ParagraphWord → List LineChoice
  | _, [] => []
  | before, w :: rest =>
    let later := lineChoices goal most indent (w :: before) rest
    match bestLine goal most 0 indent (w :: rest) later none with
    | some best => { best with cost := best.cost + startCost w before } :: later
    | none => later

/-- The words of a paragraph in lines. -/
def fillLines (indent : Nat) : Nat → List ParagraphWord → List LineChoice → Text
  | 0, _, _ => []
  | n + 1, words, choices =>
    match words, choices with
    | _ :: _, best :: _ =>
      let line := words.take best.count
      let text := (line.dropLast.flatMap fun w ↦ w.text ++ List.replicate w.space ' ') ++
        ((line.getLast?.map (·.text)).getD [])
      List.replicate indent ' ' ++ text ++ '\n' ::
        fillLines indent n (words.drop best.count) (choices.drop best.count)
    | _, _ => []

/-- How many blanks a line opens with, where tabs lead to stops. -/
def indentOf (line : Text) : Nat := columnsOf false (line.takeWhile isShellBlank)

/-- Lines filled paragraph by paragraph. A paragraph is a row of lines with the same indent. -/
def fillParagraphs (goal most : Nat) (uniform splits : Bool) : Nat → List Text → Text
  | 0, _ => []
  | _, [] => []
  | n + 1, line :: rest =>
    if line.all isShellBlank then '\n' :: fillParagraphs goal most uniform splits n rest
    else
      let indent := indentOf line
      let more := if splits then [] else rest.takeWhile fun other ↦
        !other.all isShellBlank && indentOf other = indent
      let words := (line :: more).flatMap (ParagraphWord.ofLine uniform)
      fillLines indent (words.length + 1) words (lineChoices goal most indent [] words) ++
        fillParagraphs goal most uniform splits n (rest.drop more.length)

/-- The width that lines should have where they may have a greater one. -/
def goalOf (most : Nat) : Nat := most * 187 / 200

/-- The program `fmt`. -/
def fillTexts : Utility :=
  let form : OptionForm := {
    name := "fmt", plain := "csut", valued := "wgp"
    long := [("crown-margin", 'c'), ("split-only", 's'), ("tagged-paragraph", 't'),
      ("uniform-spacing", 'u'), ("width", 'w'), ("goal", 'g'), ("prefix", 'p')] }
  fun arguments ↦ form.choose (withWidthOption arguments) fun c ↦ do
    match numberOf? c 'w' 75, numberOf? c 'g' 0 with
    | none, _ => failOf "fmt" 1 ("invalid width: ".toList ++ quotedName ((c.value? 'w').getD []))
    | _, none => failOf "fmt" 1 ("invalid width: ".toList ++ quotedName ((c.value? 'g').getD []))
    | some width, some goal =>
      let most := if c.has 'g' ∧ !c.has 'w' then goal + 10 else width
      let goal := if c.has 'g' then goal else goalOf most
      let words (name : Text) (f : FileFault) : Text :=
        if f = .isDirectory then "read error: ".toList ++ f.words
        else "cannot open ".toList ++ quotedName name ++ " for reading: ".toList ++ f.words
      let (inputs, isWhole) ← readInputs "fmt" words c.others
      put (inputs.flatMap fun e ↦
        let lines := linesOf e.2
        fillParagraphs goal most (c.has 'u') (c.has 's') (lines.length + 1) lines)
      return if isWhole then 0 else 1

end CommandScript.Shell
