import CommandScript.Text.Blank

/-!
# Status codes

An executor answers a command with an integer code. `Status.ofCode` sorts every code into one of
four kinds; only the code zero is a success. A status of any other kind **rejects** its command,
and the rejection stops the session.
-/
namespace CommandScript

/-- The kinds of status. -/
inductive StatusKind where
  /-- The command was carried out. -/
  | succeeded
  /-- The executor does not know the command. -/
  | notFound
  /-- The command is not allowed as things stand. -/
  | illegalState
  /-- One of the command's parameters is refused. -/
  | illegalParameter
  deriving DecidableEq, Repr

namespace StatusKind

/-- The name of a kind. -/
def name : StatusKind → Text
  | .succeeded => "succeeded".toList
  | .notFound => "not_found".toList
  | .illegalState => "illegal_state".toList
  | .illegalParameter => "illegal_parameter".toList

/-- Every kind. -/
def all : List StatusKind := [.succeeded, .notFound, .illegalState, .illegalParameter]

/-- The kind of a name. -/
def ofName? (t : Text) : Option StatusKind := all.find? (·.name == t)

end StatusKind

/-- A **status**: the sorted answer to one command. -/
structure Status where
  /-- The code that the executor gave. -/
  code : Int
  /-- What kind of answer it is. -/
  kind : StatusKind
  /-- Which parameter is refused, when one is. -/
  parameterIndex : Option Int
  deriving DecidableEq, Repr

namespace Status

/-- The code of a success. -/
def successCode : Int := 0

/-- The code of a command that is not known. -/
def notFoundCode : Int := 100

/-- The code of a command that is not allowed as things stand. -/
def illegalStateCode : Int := 200

/-- The least of the codes for a parameter that is out of range. -/
def outOfRangeCode : Int := 300

/-- The index of the parameter that a code refuses: its last two decimal digits, counted upwards
also below zero. -/
def indexOf (code : Int) : Int := Int.emod code 100

/-- The status of a code. -/
def ofCode (code : Int) : Status :=
  if code = successCode then ⟨code, .succeeded, none⟩
  else if code = notFoundCode then ⟨code, .notFound, none⟩
  else if code = illegalStateCode then ⟨code, .illegalState, none⟩
  else ⟨code, .illegalParameter, some (indexOf code)⟩

/-- Whether a status is a success. -/
def succeeded (s : Status) : Bool := s.kind = .succeeded

end Status

/-- Why a command is rejected. -/
inductive Rejection.Cause where
  /-- The executor does not know the command. -/
  | commandNotFound
  /-- The command is not allowed as things stand. -/
  | illegalApplicationState
  /-- One of the command's parameters is refused. -/
  | illegalParameter
  deriving DecidableEq, Repr

/-- The words for a cause. -/
def Rejection.Cause.label : Rejection.Cause → Text
  | .commandNotFound => "Command not found".toList
  | .illegalApplicationState => "Illegal application state".toList
  | .illegalParameter => "Illegal parameter".toList

/-- A **rejection**: a command that an executor refused with a status. -/
structure Rejection where
  /-- Why the command is rejected. -/
  cause : Rejection.Cause
  /-- The command. -/
  command : Text
  /-- The status that rejects it. -/
  status : Status
  deriving DecidableEq, Repr

namespace Rejection

/-- The message of a rejection. -/
def message (r : Rejection) : Text := r.cause.label ++ ": ".toList ++ r.command

/-- The index of the refused parameter, zero where the status names none. -/
def parameterIndex (r : Rejection) : Int := r.status.parameterIndex.getD 0

end Rejection

namespace Status

/-- Why a kind of status rejects a command; a success does not. -/
def cause? : StatusKind → Option Rejection.Cause
  | .succeeded => none
  | .notFound => some .commandNotFound
  | .illegalState => some .illegalApplicationState
  | .illegalParameter => some .illegalParameter

/-- The rejection that a status makes of a command; a success makes none. -/
def rejection? (s : Status) (command : Text) : Option Rejection :=
  (cause? s.kind).map fun cause ↦ ⟨cause, command, s⟩

end Status

end CommandScript
