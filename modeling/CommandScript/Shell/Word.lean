import CommandScript.Shell.Escape

/-!
# Words of the shell

A **word** is a list of pieces, since what it stands for is only known when the command runs. It
keeps its own spelling, which messages and lists of commands show. A word that is written like an
assignment knows its target and its value as well.
-/
namespace CommandScript.Shell

/-- A **piece** of a word. -/
inductive Piece where
  /-- Characters that stand for themselves, within quotes or not. -/
  | literal (quoted : Bool) (t : Text)
  /-- The value of a variable, or what stands between braces after a dollar sign. -/
  | parameter (quoted : Bool) (source : Text)
  /-- The output of a command line. -/
  | output (quoted : Bool) (source : Text)
  /-- The value of an arithmetic expression. -/
  | arithmetic (quoted : Bool) (source : Text)
  /-- The path of a file that a command line writes, or reads. -/
  | process (reads : Bool) (source : Text)
  deriving DecidableEq, Repr

/-- What an assignment changes. -/
structure Target where
  /-- The name of the variable. -/
  name : Text
  /-- The source of the subscript, for a member of an array. -/
  subscript : Option Text
  /-- Whether the value is added to the old one. -/
  adds : Bool
  deriving DecidableEq, Repr

/-- What an assignment gives. -/
inductive Given where
  /-- The value of pieces of a word. -/
  | value (pieces : List Piece)
  /-- The members of an array, as they stand between parentheses. -/
  | members (source : Text)
  deriving DecidableEq, Repr

/-- An **assignment** before expansion. -/
structure Assignment where
  /-- What is changed. -/
  target : Target
  /-- What is given. -/
  given : Given
  deriving DecidableEq, Repr

/-- A **word** before expansion. -/
structure Word where
  /-- Its pieces. -/
  pieces : List Piece
  /-- Its spelling. -/
  raw : Text
  /-- The assignment that it is written as, if it is. -/
  assignment : Option Assignment
  deriving DecidableEq, Repr

/-- Pieces with one more in front; literals of one kind are put together. -/
def pushPiece : Piece → List Piece → List Piece
  | .literal q t, .literal q' t' :: rest =>
    if q = q' then .literal q (t ++ t') :: rest else .literal q t :: .literal q' t' :: rest
  | p, rest => p :: rest

/-- Whether a piece is quoted. -/
def Piece.isQuoted : Piece → Bool
  | .literal quoted _ => quoted
  | .parameter quoted _ => quoted
  | .output quoted _ => quoted
  | .arithmetic quoted _ => quoted
  | .process _ _ => false

/-- The word that a text is when none of its characters has a meaning. -/
def Word.ofText (t : Text) : Word := ⟨[.literal true t], t, none⟩

/-- The text of a word that is written without quotes, as a keyword is. -/
def Word.plain? (w : Word) : Option Text :=
  match w.pieces with
  | [.literal false t] => some t
  | _ => none

/-- The characters of a word of which nothing is expanded, without its quotes. -/
def Word.unquoted (w : Word) : Text :=
  w.pieces.flatMap fun
    | .literal _ t => t
    | .parameter _ t => '$' :: t
    | .output _ t => "$(".toList ++ t ++ [')']
    | .arithmetic _ t => "$((".toList ++ t ++ "))".toList
    | .process reads t => (if reads then ">(" else "<(").toList ++ t ++ [')']

end CommandScript.Shell
