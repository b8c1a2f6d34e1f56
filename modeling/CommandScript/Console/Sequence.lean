import CommandScript.Text.Quoted

/-!
# Terminal sequences

A terminal takes some characters as orders: a **sequence** is an escape character and an opening
bracket, any digits, semicolons and question marks, and a letter. Where a message is written to
something that is no terminal, its sequences are left out.
-/
namespace CommandScript.Console

/-- Whether a character can stand between the bracket and the letter of a sequence. -/
def withinSequence (c : Char) : Bool := c.isDigit || c = ';' || c = '?'

/-- What follows the sequence that a text opens with, if it opens with one. -/
def afterSequence? : Text → Option Text
  | '\x1B' :: '[' :: rest =>
    match rest.dropWhile withinSequence with
    | c :: after => if c.isAlpha then some after else none
    | [] => none
  | _ => none

/-- What follows a sequence is shorter than the text. -/
theorem length_lt_of_afterSequence? {t after : Text} (h : afterSequence? t = some after) :
    after.length < t.length := by
  unfold afterSequence? at h
  split at h
  · rename_i rest
    split at h
    · rename_i c tail hdrop
      split at h
      · cases h
        have hlt := Text.length_lt_of_dropWhile hdrop
        simp only [List.length_cons]
        omega
      · cases h
    · cases h
  · cases h

/-- A text without its sequences. -/
def withoutSequences (t : Text) : Text :=
  match h : afterSequence? t with
  | some after =>
    have := length_lt_of_afterSequence? h
    withoutSequences after
  | none =>
    match t with
    | [] => []
    | c :: rest => c :: withoutSequences rest
termination_by t.length

end CommandScript.Console
