import CommandScript.Shell.Expression
import CommandScript.Shell.Octets

/-!
# Rule scripts

A rule script is a row of rules, each of which says for which records something is done and what.
Some are done before all records and some after them. What is done is made of statements; those work
with terms, which have values and may change what their targets hold.
-/
namespace CommandScript.Shell.RuleScript

/-- An **operation** on two numbers. -/
inductive Operation where
  /-- The sum. -/
  | add
  /-- The difference. -/
  | subtract
  /-- The product. -/
  | multiply
  /-- The quotient. -/
  | divide
  /-- What is left by a division. -/
  | remainder
  /-- The power. -/
  | power
  deriving DecidableEq, Repr

/-- A **comparison** of two values. -/
inductive Relation where
  /-- The first is less. -/
  | less
  /-- The first is not greater. -/
  | atMost
  /-- They are equal. -/
  | equal
  /-- They are not equal. -/
  | unequal
  /-- The first is greater. -/
  | greater
  /-- The first is not less. -/
  | atLeast
  deriving DecidableEq, Repr

/-- Whether a comparison holds of an order. -/
def Relation.holds : Relation → Ordering → Bool
  | .less, o => o = .lt
  | .atMost, o => o != .gt
  | .equal, o => o = .eq
  | .unequal, o => o != .eq
  | .greater, o => o = .gt
  | .atLeast, o => o != .lt

/-- A **routine** that every script can use. -/
inductive Routine where
  /-- How long a text is, or how many keys a table has. -/
  | length
  /-- Where a text occurs in another one. -/
  | index
  /-- A part of a text. -/
  | part
  /-- Cuts a text into a table. -/
  | split
  /-- Looks for an expression in a text. -/
  | find
  /-- Writes values by a format. -/
  | format
  /-- A text in capital letters. -/
  | upper
  /-- A text in small letters. -/
  | lower
  /-- Replaces the first match. -/
  | replaceFirst
  /-- Replaces all matches. -/
  | replaceAll
  /-- The sine. -/
  | sine
  /-- The cosine. -/
  | cosine
  /-- The angle of a point. -/
  | angle
  /-- The exponential function. -/
  | exponential
  /-- The natural logarithm. -/
  | logarithm
  /-- The square root. -/
  | root
  /-- A number without its places. -/
  | whole
  /-- A random number. -/
  | random
  /-- Sets where random numbers start. -/
  | seed
  /-- Ends an input or an output. -/
  | close
  /-- Runs a command line. -/
  | system
  /-- Hands over what has been written. -/
  | flush
  /-- The present moment. -/
  | moment
  /-- A moment written by a format. -/
  | showMoment
  /-- The moment that a text describes. -/
  | readMoment
  deriving DecidableEq, Repr

/-- The routines by name, with the least and the greatest number of arguments. -/
def Routine.table : List (String × Routine × Nat × Nat) := [
  ("length", .length, 0, 1), ("index", .index, 2, 2), ("substr", .part, 2, 3),
  ("split", .split, 2, 3), ("match", .find, 2, 2), ("sprintf", .format, 1, 1000),
  ("toupper", .upper, 1, 1), ("tolower", .lower, 1, 1), ("sub", .replaceFirst, 2, 3),
  ("gsub", .replaceAll, 2, 3), ("sin", .sine, 1, 1), ("cos", .cosine, 1, 1),
  ("atan2", .angle, 2, 2), ("exp", .exponential, 1, 1), ("log", .logarithm, 1, 1),
  ("sqrt", .root, 1, 1), ("int", .whole, 1, 1), ("rand", .random, 0, 0), ("srand", .seed, 0, 1),
  ("close", .close, 1, 1), ("system", .system, 1, 1), ("fflush", .flush, 0, 1),
  ("systime", .moment, 0, 0), ("strftime", .showMoment, 0, 3), ("mktime", .readMoment, 1, 1)]

/-- Where a variable is. -/
inductive Slot where
  /-- Among the variables of the script. -/
  | global (n : Nat)
  /-- Among those of the function under way. -/
  | own (n : Nat)
  deriving DecidableEq, Repr

mutual

/-- A **term**. -/
inductive Term where
  /-- A number. -/
  | number (x : Float)
  /-- A text. -/
  | text (t : Text)
  /-- An expression that is looked for. -/
  | pattern (e : Expression)
  /-- What a target holds. -/
  | fetch (p : Target)
  /-- An assignment. -/
  | assign (p : Target) (v : Term)
  /-- An operation on what a target holds. -/
  | change (op : Operation) (p : Target) (v : Term)
  /-- Adds one to what a target holds or takes one from it, and gives the new value or the old one.
  -/
  | step (p : Target) (isUp isNew : Bool)
  /-- One term or another, by a third one. -/
  | choice (c a b : Term)
  /-- Whether both hold. -/
  | both (a b : Term)
  /-- Whether one of them holds. -/
  | oneOf (a b : Term)
  /-- Whether a term does not hold. -/
  | negation (a : Term)
  /-- Whether a table has a key. -/
  | isIn (keys : List Term) (table : Slot)
  /-- Whether an expression occurs in a text. -/
  | occurs (t p : Term)
  /-- A comparison. -/
  | compare (r : Relation) (a b : Term)
  /-- One text behind another. -/
  | join (a b : Term)
  /-- An operation. -/
  | compute (op : Operation) (a b : Term)
  /-- A number with the other sign. -/
  | minus (a : Term)
  /-- A number. -/
  | plus (a : Term)
  /-- A call of a function. -/
  | call (name : Text) (arguments : List Term)
  /-- A call of a routine. -/
  | routine (r : Routine) (arguments : List Term)
  /-- Reads a record, and gives whether there is one. -/
  | read (source : RecordSource) (into : Option Target)

/-- Where a record is read from. -/
inductive RecordSource where
  /-- From the inputs of the script. -/
  | usual
  /-- From a file. -/
  | file (name : Term)
  /-- From what a command line writes. -/
  | command (line : Term)

/-- A **target**: what can be assigned to. -/
inductive Target where
  /-- A variable. -/
  | variable (s : Slot)
  /-- An element of a table. -/
  | element (table : Slot) (keys : List Term)
  /-- A field of the record. -/
  | field (n : Term)

end

/-- How what is written gets to where it goes. -/
inductive Outlet where
  /-- In the place of what a file holds. -/
  | over
  /-- Behind what it holds. -/
  | behind
  /-- As the input of a command line. -/
  | command
  deriving DecidableEq, Repr

/-- A **statement**. -/
inductive Statement where
  /-- Nothing is done. -/
  | nothing
  /-- One statement after the other. -/
  | group (all : List Statement)
  /-- A term, for what it changes. -/
  | alone (t : Term)
  /-- Writes values, by a format or between separators. -/
  | print (isFormat : Bool) (values : List Term) (aim : Option (Outlet × Term))
  /-- One statement or another. -/
  | choice (c : Term) (a b : Statement)
  /-- A statement again and again, as long as a term holds. -/
  | loop (c : Term) (body : Statement)
  /-- A statement once, and again as long as a term holds. -/
  | atLeastOnce (body : Statement) (c : Term)
  /-- A loop with a start and a step. -/
  | count (start : Statement) (c : Option Term) (next body : Statement)
  /-- A statement for every key of a table. -/
  | each (p : Target) (table : Slot) (body : Statement)
  /-- Ends the loop. -/
  | leave
  /-- Ends the round of the loop. -/
  | skip
  /-- Goes on with the next record. -/
  | nextRecord
  /-- Goes on with the next input. -/
  | nextInput
  /-- Ends the run. -/
  | exit (status : Option Term)
  /-- Ends the function with a value. -/
  | giveBack (v : Option Term)
  /-- Removes a key of a table, or all of them. -/
  | erase (table : Slot) (keys : List Term)

/-- For which records a rule is done. -/
inductive Condition where
  /-- For all. -/
  | always
  /-- For those of which a term holds. -/
  | when (t : Term)
  /-- From one of which a term holds to one of which another does. -/
  | between (a b : Term)

/-- A **function** of a script. -/
structure Procedure where
  /-- The number of its parameters. -/
  arity : Nat
  /-- What it does. -/
  body : Statement

end CommandScript.Shell.RuleScript

namespace CommandScript.Shell

/-- A **rule script**. -/
structure RuleScript where
  /-- What is done before all records. -/
  first : List RuleScript.Statement
  /-- What is done for records. -/
  rules : Array (RuleScript.Condition × RuleScript.Statement)
  /-- What is done after all records. -/
  last : List RuleScript.Statement
  /-- The functions by name. -/
  procedures : List (Text × RuleScript.Procedure)
  /-- The names of the variables. -/
  names : List Text

namespace RuleScript

/-- The variables that every script has. -/
def specialNames : List String := [
  "NR", "FNR", "NF", "FS", "OFS", "ORS", "RS", "FILENAME", "SUBSEP", "RSTART", "RLENGTH", "CONVFMT",
  "OFMT", "ENVIRON", "ARGC", "ARGV"]

/-- The number of a variable that every script has. -/
def special (name : String) : Nat := specialNames.idxOf name

end RuleScript

end CommandScript.Shell
