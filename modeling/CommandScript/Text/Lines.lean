import CommandScript.Text.Blank

/-!
# Line ends and physical lines

`unifyLineEnds` writes each of the three line ends (line feed, carriage return, and the two
together) as a line feed. `physicalLines` cuts a text after each line feed, so that the lines, put
together, are the text again (`flatten_physicalLines`).
-/
namespace CommandScript.Text

/-- The text with every line end written as a line feed. A carriage return with a line feed after
it is one line end. -/
def unifyLineEnds : Text → Text
  | [] => []
  | '\r' :: '\n' :: rest => '\n' :: unifyLineEnds rest
  | '\r' :: rest => '\n' :: unifyLineEnds rest
  | c :: rest => c :: unifyLineEnds rest

/-- The **physical lines** of a text: its pieces up to and including each line feed, and what
stands after the last one when that is not empty. -/
def physicalLines : Text → List Text
  | [] => []
  | c :: rest =>
    if c = '\n' then ['\n'] :: physicalLines rest
    else match physicalLines rest with
      | [] => [[c]]
      | line :: others => (c :: line) :: others

/-- The physical lines of a text lose nothing of it and keep its order. -/
theorem flatten_physicalLines (t : Text) : (physicalLines t).flatten = t := by
  induction t with
  | nil => rfl
  | cons c rest ih =>
    rw [physicalLines]
    split
    · simp [*]
    · split
      · next h => simp [h] at ih; simp [← ih]
      · next line others h => rw [h] at ih; simp [← ih]

end CommandScript.Text
