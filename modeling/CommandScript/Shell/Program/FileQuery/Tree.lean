import CommandScript.Shell.Expression
import CommandScript.Shell.Pattern

/-!
# Queries of files

A **query** is put to one file after the other. It is made of tests, which hold or do not, and of
actions, which do something and may hold too; these are joined by signs of which some look at their
second part only if the first one leaves the answer open.
-/
namespace CommandScript.Shell

namespace FileQuery

/-! ### Tests -/

/-- A number with how others are compared with it. -/
structure Bound where
  /-- How a number has to stand to it. -/
  order : Ordering
  /-- The number. -/
  value : Nat
  deriving DecidableEq, Repr

/-- Whether a number is within a bound. -/
def Bound.holds (b : Bound) (n : Nat) : Bool := compare n b.value == b.order

/-- How the permissions of a file are compared with others. -/
inductive ModeMatch where
  /-- They are the same. -/
  | same
  /-- All of the others are among them. -/
  | all
  /-- Some of the others are among them, if there are any. -/
  | any
  deriving DecidableEq, Repr

/-- Whether the permissions of a file match others. -/
def ModeMatch.holds (m : ModeMatch) (wanted mode : Nat) : Bool :=
  match m with
  | .same => mode == wanted
  | .all => mode &&& wanted == wanted
  | .any => wanted == 0 || mode &&& wanted != 0

/-- Which text of a file is compared with a pattern. -/
inductive Subject where
  /-- Its name. -/
  | name
  /-- Its whole path. -/
  | path
  /-- Where it points, if it is a link. -/
  | target
  deriving DecidableEq, Repr

/-- A **test** of a file. -/
inductive Test where
  /-- One that always or never holds. -/
  | always (value : Bool)
  /-- A text of the file fits a pattern. -/
  | fits (subject : Subject) (p : Pattern)
  /-- The whole path matches an expression. -/
  | matches (e : Expression)
  /-- The file is of one of some kinds, or what a link leads to is. -/
  | kind (letters : List Char) (through : Bool)
  /-- There is nothing in the file or directory. -/
  | empty
  /-- The file takes a number of units, of which a part counts as a whole one. -/
  | size (unit : Nat) (b : Bound)
  /-- A number of names lead to the file. -/
  | links (b : Bound)
  /-- The node of the file has a number. -/
  | number (b : Bound)
  /-- The file belongs to the user of a number. -/
  | owner (b : Bound)
  /-- The file is of an age. -/
  | age (b : Bound)
  /-- The file has permissions. -/
  | mode (m : ModeMatch) (bits : Nat)
  /-- The file has been changed later than at a moment. -/
  | newer (stamp : Nat)
  /-- The file has the same node as another one. -/
  | same (number : Nat)
  /-- The file is there and can be used: run, or read and written. -/
  | usable (runs : Bool)
  deriving Repr

/-! ### Actions -/

/-- A part of a format of facts about a file. -/
inductive Piece where
  /-- A text as it stands. -/
  | text (t : Text)
  /-- A fact by its letters, in a room with a flag for where it stands. -/
  | fact (flags : Text) (width : Option Nat) (precision : Option Nat) (letters : Text)
  deriving DecidableEq, Repr

/-- Where output goes: to a file that is named, or else to where all output does. -/
abbrev Place := Option Text

/-- How a command is run for a file. -/
structure Call where
  /-- The words, in which braces stand for the path. -/
  words : List Text
  /-- Whether it runs in the directory of the file. -/
  within : Bool
  /-- Whether it asks first. -/
  asks : Bool
  deriving DecidableEq, Repr

/-- An **action** on a file. -/
inductive Action where
  /-- The path is written with a character behind it. -/
  | print (ending : Char) (place : Place)
  /-- Facts are written by a format. -/
  | format (pieces : List Piece) (place : Place)
  /-- The file is listed with all that is known of it. -/
  | list (place : Place)
  /-- The file is removed. -/
  | delete
  /-- What is in the directory is passed over. -/
  | prune
  /-- The search ends. -/
  | quit
  /-- A command is run. -/
  | run (c : Call)
  /-- A command of a number is run for many files at once. -/
  | gather (number : Nat) (c : Call)
  deriving DecidableEq, Repr

end FileQuery

/-- A **query** of files. -/
inductive FileQuery where
  /-- A test. -/
  | test (t : FileQuery.Test)
  /-- An action. -/
  | action (a : FileQuery.Action)
  /-- A query whose answer is turned. -/
  | negated (q : FileQuery)
  /-- Two queries that both have to hold. -/
  | both (left right : FileQuery)
  /-- Two queries of which one has to hold. -/
  | either (left right : FileQuery)
  /-- Two queries of which the second one counts. -/
  | list (left right : FileQuery)
  deriving Repr

end CommandScript.Shell
