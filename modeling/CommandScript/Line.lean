import CommandScript.Token

/-!
# One physical line

A physical line is read in its **normal form**: tabs are spaces and the blanks at both ends are
gone. A line whose normal form opens with a number sign is a **comment** and stands for itself. Any
other line gives its **body**, the tokens before the first one that opens a comment or is a
continuation marker; what that first token is decides how the line ends.
-/
namespace CommandScript.Line

/-- The normal form of a physical line. -/
def normalize (raw : Text) : Text := Text.trim (raw.map fun c ↦ if c = '\t' then ' ' else c)

/-- How a line that is no comment ends. -/
inductive Ending where
  /-- The line ends its command. -/
  | complete
  /-- The command goes on in the next line. -/
  | continued
  /-- The command goes on in the next line, although tokens stand after the marker. -/
  | continuedEarly
  deriving DecidableEq, Repr

/-- What a physical line gives to the command under way. -/
inductive Content where
  /-- A comment, by its normal form. -/
  | comment (text : Text)
  /-- Tokens, and how the line ends. -/
  | body (tokens : List Text) (ending : Ending)
  deriving DecidableEq, Repr

/-- Whether a token belongs to the body of its line wherever it stands. -/
def isPlain (token : Text) : Bool := !Token.opensComment token && !Token.isMarker token

/-- How a line ends whose tokens from the first one on that is not plain are given. -/
def endingOf : List Text → Ending
  | [] => .complete
  | token :: rest =>
    if Token.opensComment token then .complete
    else if rest.isEmpty then .continued
    else .continuedEarly

/-- What a line in normal form gives. -/
def contentOf (line : Text) : Content :=
  if line.head? = some '#' then .comment line
  else
    let tokens := Token.split line
    .body (tokens.takeWhile isPlain) (endingOf (tokens.dropWhile isPlain))

/-- What a physical line gives. -/
def content (raw : Text) : Content := contentOf (normalize raw)

end CommandScript.Line
