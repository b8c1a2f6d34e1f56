import CommandScript.Shell.CharacterSet
import CommandScript.Shell.Program.Basic
import CommandScript.Text.Columns

/-!
# Counting

The program that counts the lines, words, characters and octets of texts, and the columns of their
longest lines.
-/
namespace CommandScript.Shell

/-- What a text has of each thing that is counted. -/
structure Counts where
  /-- The line feeds. -/
  lines : Nat
  /-- The words. -/
  words : Nat
  /-- The characters. -/
  characters : Nat
  /-- The octets. -/
  octets : Nat
  /-- The columns of the longest line. -/
  columns : Nat
  deriving DecidableEq, Repr

namespace Counts

/-- The counts of nothing. -/
def none : Counts := ⟨0, 0, 0, 0, 0⟩

/-- The counts of two texts together. -/
def add (a b : Counts) : Counts :=
  ⟨a.lines + b.lines, a.words + b.words, a.characters + b.characters, a.octets + b.octets,
    max a.columns b.columns⟩

/-- The column after a character that comes after a column. -/
def columnAfter (column : Nat) (c : Char) : Nat :=
  if c = '\t' then (column / 8 + 1) * 8
  else if c.toNat < 32 ∨ strayMark ≤ c.toNat then column else column + Text.charColumns c

/-- The counts of characters after what has been counted, in a word or not, at a column. -/
def run (total : Counts) (inWord : Bool) (column : Nat) : Text → Counts
  | [] => { total with
      words := total.words + if inWord then 1 else 0, columns := max total.columns column }
  | c :: rest =>
    if isSpace c then
      let total := { total with
        lines := total.lines + if c = '\n' then 1 else 0
        words := total.words + if inWord then 1 else 0
        columns := max total.columns column }
      let column := if c = '\n' ∨ c = '\r' ∨ c = '\x0C' then 0 else columnAfter column c
      run total false column rest
    else
      run total (inWord || (32 < c.toNat && c.toNat != 127 && c.toNat < strayMark))
        (columnAfter column c) rest

/-- The counts of a text. -/
def ofText (t : Text) : Counts :=
  let characters := wide t
  { run none false 0 characters with
    characters := (characters.filter fun c ↦ c.toNat < strayMark).length, octets := t.length }

/-- The counts that the letters of options ask for, in the order in which they are written. -/
def chosen (letters : Text) (x : Counts) : List Nat :=
  ([('l', x.lines), ('w', x.words), ('m', x.characters), ('c', x.octets), ('L', x.columns)].filter
    fun e ↦ letters.contains e.1).map (·.2)

end Counts

/-- The length of what a name leads to, where that is a file. -/
def fileLength? (s : State) (name : Text) : Option Nat :=
  if name = ['-'] then
    match s.conduitAt? 0 with
    | some (.file node _ _ _ _) => (s.files.octets? node).map List.length
    | _ => none
  else match s.files.open? (pathOf name) with
    | .ok (_, octets) => some octets.length
    | .error _ => none

/-- How wide the counts are written, by the lengths of the files. -/
def countWidth (s : State) (single : Bool) (names : List Text) : Nat :=
  if single ∧ names.length = 1 then 1
  else
    let isMissing (name : Text) : Bool :=
      name != ['-'] && (s.files.find (pathOf name)).toOption.isNone
    let there := names.filter (!isMissing ·)
    let lengths := there.map (fileLength? s)
    let least := if lengths.any Option.isNone then 7 else 1
    max least (shown (sumOf (lengths.filterMap id))).length

/-- The program `wc`. -/
def countTexts : Utility :=
  let form : OptionForm := {
    name := "wc", plain := "clmwL", valued := "T"
    long := [("bytes", 'c'), ("chars", 'm'), ("lines", 'l'), ("words", 'w'),
      ("max-line-length", 'L'), ("total", 'T')] }
  fun arguments ↦ form.choose arguments fun c ↦ do
    let given := (c.given.map (·.1)).filter (· != 'T')
    let letters := if given.isEmpty then "lwc".toList else given
    let names := orInput c.others
    let width := countWidth (← get) ((Counts.none.chosen letters).length = 1) names
    let row (x : Counts) (name : Text) : Text :=
      [' '].intercalate ((x.chosen letters).map fun n ↦ padStart width (shown n)) ++
        (if name.isEmpty then [] else ' ' :: name) ++ ['\n']
    let mut rows : List Text := []
    let mut total := Counts.none
    let mut status := 0
    for name in names do
      let title := if c.others.isEmpty then [] else shownFile name
      match ← readInput name with
      | .ok t =>
        let x := Counts.ofText t
        total := total.add x
        rows := row x title :: rows
      | .error f =>
        tellOf "wc" (fileFault name f)
        if f = .isDirectory then rows := row .none title :: rows
        status := 1
    let when := String.ofList ((c.value? 'T').getD "auto".toList)
    let sums := match when with
      | "always" => true
      | "only" => true
      | "never" => false
      | _ => 1 < names.length
    if when = "only" then put (row total []) else
      put (rows.reverse.flatten ++ if sums then row total "total".toList else [])
    return status

end CommandScript.Shell
