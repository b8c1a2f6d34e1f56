import CommandScript.Console.Emoji
import CommandScript.Text.Columns

/-!
# The layout of printed texts

A console prints a text as rows of at most its width. The text is cut at its line feeds, tabs are
filled up to the next multiple of eight columns, and each line is **wrapped**: it is broken before
a word that does not fit, and a word that fits in no row is folded at the width. A word keeps the
blanks after it, and some are cut off where a row has more characters than the width. What fits is
told by the columns that characters take. A console without any width prints nothing.
-/
namespace CommandScript.Console

/-- The control characters that a console leaves out: bell, backspace, vertical tab, form feed and
carriage return. -/
def isLeftOut (c : Char) : Bool := [7, 8, 11, 12, 13].contains c.toNat

/-- The columns between tab stops. -/
def tabWidth : Nat := 8

/-- The parts of a line between its tabs with the tabs as spaces up to the next tab stop, from a
column on. -/
def fillTabs (column : Nat) : List Text → Text
  | [] => []
  | [part] => part
  | part :: rest =>
    let column := column + Text.columns part
    let filler := tabWidth - column % tabWidth
    part ++ List.replicate filler ' ' ++ fillTabs (column + filler) rest

/-- A line with its tabs as spaces. -/
def expandTabs (line : Text) : Text := fillTabs 0 (Text.fields '\t' line)

/-- The words of a line, each with the blanks after it, and the first also with the blanks before
it. A line of blanks has no words. -/
def words (line : Text) : List Text :=
  let blanks := line.takeWhile Text.isBlank
  match h : line.dropWhile Text.isBlank with
  | [] => []
  | c :: rest =>
    let after := rest.dropWhile fun c ↦ !Text.isBlank c
    have : (after.dropWhile Text.isBlank).length < line.length := by
      have h₁ := (List.dropWhile_suffix (l := line) Text.isBlank).length_le
      have h₂ := (List.dropWhile_suffix (l := rest) fun c ↦ !Text.isBlank c).length_le
      have h₃ := (List.dropWhile_suffix (l := after) Text.isBlank).length_le
      rw [h, List.length_cons] at h₁
      simp only [after] at h₃ ⊢
      omega
    (blanks ++ c :: rest.takeWhile (fun c ↦ !Text.isBlank c) ++ after.takeWhile Text.isBlank) ::
      words (after.dropWhile Text.isBlank)
termination_by line.length

/-- Pieces with one more text at the start of the first. -/
def consFirst (t : Text) : List Text → List Text
  | [] => [t]
  | piece :: others => (t ++ piece) :: others

/-- Clusters put into pieces of at most a width, when the first piece has already taken some
columns. A cluster that fits in no piece has one of its own. -/
def fold (width used : Nat) : List Text.Cluster → List Text
  | [] => [[]]
  | c :: rest =>
    if used + c.columns ≤ width then consFirst c.text (fold width (used + c.columns) rest)
    else [] :: consFirst c.text (fold width c.columns rest)

/-- The columns of a word without the blanks at its end. -/
def bareColumns (word : Text) : Nat := Text.columns (Text.trimEnd word)

/-- The rows of a line from a word on, where `row` is the row under way and `column` the column
after it. -/
def wrapFrom (width : Nat) (row : Text) (column : Nat) : List Text → List Text
  | [] => [row]
  | word :: rest =>
    if column + bareColumns word ≤ width then
      wrapFrom width (row ++ word) (column + Text.columns word) rest
    else
      let finished := if row.isEmpty then [] else [row]
      if width < bareColumns word then
        let pieces := fold width 0 (Text.clusters word)
        let folded := if row.isEmpty then pieces.filter (!·.isEmpty) else pieces
        let last := folded.getLastD []
        finished ++ folded.dropLast ++ wrapFrom width last (Text.columns last) rest
      else finished ++ wrapFrom width word (Text.columns word) rest

/-- A row without what stands beyond the width. Blanks at its end are dropped first, at most one for
each character that the row has above the width; what is still too wide is cut, and where the cut
meets a wide character, a space stands in for its first half. -/
def cutRow (width : Nat) (row : Text) : Text :=
  let blanks := row.length - (Text.trimEnd row).length
  let kept := row.take (row.length - min blanks (row.length - width))
  if Text.columns kept ≤ width then kept else Text.padColumns width (Text.takeColumns width kept)

/-- The rows of one line. -/
def wrapLine (width : Nat) (line : Text) : List Text :=
  let rows := match words line with
    | [] => [line]
    | ws => wrapFrom width [] 0 ws
  rows.map (cutRow width)

/-- A text without the characters that a console leaves out. -/
def visible (t : Text) : Text := t.filter fun c ↦ !isLeftOut c

/-- The rows of a text. -/
def rows (width : Nat) (t : Text) : List Text :=
  if width = 0 then []
  else (Text.fields '\n' (visible t)).flatMap fun line ↦ wrapLine width (expandTabs line)

/-- What a console of a width prints for a text: its rows, emoji shown, each ended by a line
feed. -/
def render (pictures : Pictures) (width : Nat) (t : Text) : Text :=
  (rows width (showEmoji pictures t)).flatMap fun row ↦ row ++ ['\n']

end CommandScript.Console
