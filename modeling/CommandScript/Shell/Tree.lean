import CommandScript.Shell.Lexeme

/-!
# Shell trees

A command line is a **tree** of simple commands, pipelines, lists, and compound commands:
subshells, groups, choices, loops, conditions and functions.
-/
namespace CommandScript.Shell

/-- What a redirection does. -/
inductive Redirection where
  /-- Input comes from a file. -/
  | input
  /-- Output goes to a file, which is emptied first. -/
  | output
  /-- Output goes to a file, even to one that should not be overwritten. -/
  | overwrite
  /-- Output is appended to a file. -/
  | append
  /-- A file is read and written. -/
  | update
  /-- A channel leads where another one does. -/
  | duplicate (reads : Bool)
  /-- Both outputs go to a file. -/
  | both (appends : Bool)
  /-- Input is a word and a line feed. -/
  | given
  /-- Input is a text that stands in the lines after the command, up to one that is the word of the
  redirection. When there is no such line, that word is given with the lines at which the command
  stands and the source ends. -/
  | document (body : List Piece) (lacking : Option (Text × Nat × Nat)) (source : Text)
  deriving DecidableEq, Repr

/-- A **redirection**. -/
structure Redirect where
  /-- The channel, if it is not the usual one. -/
  handle : Option Handle
  /-- What the redirection does. -/
  kind : Redirection
  /-- Its sign. -/
  sign : Text
  /-- The word after its sign. -/
  target : Word
  deriving DecidableEq, Repr

/-- A **condition** between double brackets. -/
inductive Condition where
  /-- A word that is not empty. -/
  | word (w : Word)
  /-- A test of one word. -/
  | unary (operator : Text) (w : Word)
  /-- A test of two words. -/
  | binary (left : Word) (operator : Text) (right : Word)
  /-- A condition turned around. -/
  | negated (c : Condition)
  /-- A condition between parentheses. -/
  | enclosed (c : Condition)
  /-- Two conditions that have to hold both. -/
  | both (left right : Condition)
  /-- Two conditions of which one has to hold. -/
  | either (left right : Condition)

/-- What comes after the commands of a choice. -/
inductive ChoiceEnd where
  /-- No more choices. -/
  | stops
  /-- The commands of the next choice. -/
  | fallsThrough
  /-- The next choice that fits. -/
  | goesOn
  deriving DecidableEq, Repr

/-- The **tree** of a command line. Many trees know the line at which they stand. -/
inductive Tree where
  /-- Nothing at all. -/
  | nothing
  /-- A simple command: words, of which the first ones may be assignments, and redirections. -/
  | simple (line : Nat) (words : List Word) (redirects : List Redirect)
  /-- A list in a shell of its own. -/
  | subshell (line : Nat) (body : Tree)
  /-- A list in the same shell. -/
  | group (body : Tree)
  /-- A command between redirections. -/
  | redirected (body : Tree) (redirects : List Redirect)
  /-- The output of one command is the input of another. -/
  | pipe (left right : Tree)
  /-- A command whose success is turned around. -/
  | negated (t : Tree)
  /-- A command whose time is told, in the form of the standard or not. -/
  | timed (plainly : Bool) (t : Tree)
  /-- A command that runs beside the shell. -/
  | background (t : Tree)
  /-- The second command runs if the first succeeds. -/
  | both (left right : Tree)
  /-- The second command runs if the first fails. -/
  | either (left right : Tree)
  /-- One command after the other. -/
  | sequence (left right : Tree)
  /-- A choice. -/
  | branch (condition yes no : Tree)
  /-- A loop for as long as its condition succeeds, or fails. -/
  | loop (whileTrue : Bool) (condition body : Tree)
  /-- A loop over words, or over the arguments of the shell. -/
  | each (line : Nat) (name : Text) (words : Option (List Word)) (body : Tree)
  /-- A loop over answers from a menu of words, or of the arguments of the shell. -/
  | menu (line : Nat) (name : Text) (words : Option (List Word)) (body : Tree)
  /-- A loop with three arithmetic expressions: at the start, as its condition, and after each
  round. -/
  | count (line : Nat) (start condition step : Text) (body : Tree)
  /-- A word is compared with the patterns of choices. -/
  | select (line : Nat) (w : Word) (choices : Tree)
  /-- One choice: its commands run if one of its patterns matches, and the others are looked at
  if none does. -/
  | choice (patterns : List Word) (body : Tree) (ending : ChoiceEnd) (others : Tree)
  /-- A condition between double brackets. -/
  | condition (line : Nat) (c : Condition)
  /-- An arithmetic expression that succeeds when its value is not zero. -/
  | arithmetic (line : Nat) (source : Text)
  /-- A function gets its body. -/
  | define (line : Nat) (name : Text) (body : Tree)

/-- Whether a tree is nothing at all. -/
def Tree.isNothing : Tree → Bool
  | .nothing => true
  | _ => false

/-- The commands whose failures are those of the shell. -/
def specialCommands : List Text := [".", ":", "break", "continue", "eval", "exec", "exit", "export",
  "readonly", "return", "set", "shift", "source", "times", "trap", "unset"].map String.toList

/-- Whether a command of a shell of the standard is one whose faults are those of the shell. -/
def isSpecial (name : Text) : Bool := specialCommands.contains name || name = "local".toList

end CommandScript.Shell
