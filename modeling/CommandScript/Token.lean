import CommandScript.Text.Quoted

/-!
# Tokens

A line is cut into **tokens** at its spaces. A token that opens with a quote runs up to and
including the next quote of the same kind, spaces and all, or to the end of the line when there is
none; the next token may follow a closing quote at once. The quotes stay in the token. Only the
space separates tokens: other blanks are characters like any other.
-/
namespace CommandScript.Token

/-- The character between tokens. -/
def separator : Char := ' '

/-- Whether a character opens a quoted token. -/
def isQuote (c : Char) : Bool := c = Text.doubleQuote || c = Text.singleQuote

/-- The tokens of a line. -/
def split : Text → List Text
  | [] => []
  | c :: rest =>
    if c = separator then split rest
    else if isQuote c then
      match h : rest.dropWhile (· != c) with
      | [] => [c :: rest]
      | close :: after =>
        have : after.length < rest.length := Text.length_lt_of_dropWhile h
        (c :: rest.takeWhile (· != c) ++ [close]) :: split after
    else
      have : (rest.dropWhile (· != separator)).length ≤ rest.length :=
        (List.dropWhile_suffix _).length_le
      (c :: rest.takeWhile (· != separator)) :: split (rest.dropWhile (· != separator))
termination_by t => t.length

/-- A list of tokens as one text, with a space between each two. -/
def join (tokens : List Text) : Text := [separator].intercalate tokens

/-- Whether a token opens a comment. -/
def opensComment (token : Text) : Bool := token.head? == some '#'

/-- Whether a token is a **continuation marker**: it says that the command goes on in the next
line. -/
def isMarker (token : Text) : Bool := token.head? == some '\\' || token.head? == some '_'

end CommandScript.Token
