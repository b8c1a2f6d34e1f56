import CommandScript.Executor
import CommandScript.FileStore
import CommandScript.Script.Source

/-!
# Sessions

A **session** is one script on its way through an executor. It is opened on a file, keeps its place
in the script between calls, and can be closed. A script that cannot be opened is an error, or, for
a lenient session, leaves a session without a script, for which there is nothing to read.
-/
namespace CommandScript

/-- The script of a session. -/
inductive Stream where
  /-- The session never had one. -/
  | absent
  /-- The script is open, read up to a place. -/
  | opened (script : Script.Opened)
  /-- The script was closed at a place. -/
  | closed (script : Script.Opened)
  deriving DecidableEq, Repr

/-- A **session** that hands back a value of type `π`. -/
structure Session (π : Type) where
  /-- The path of the script. -/
  path : Path
  /-- What the session hands back to its caller. -/
  previous : π
  /-- The verbose level of the executor at which comments are printed. -/
  echoLevel : Int
  /-- The script. -/
  stream : Stream

namespace Session

variable {π : Type}

/-- The echo level of a session that is not told another. -/
def defaultEchoLevel : Int := 2

/-- A record that bears the path of a session. -/
def record (s : Session π) (level : Log.Level) (message : Text) : Log.Record :=
  ⟨level, message, some s.path.text⟩

/-- Opens a session. A null character in the path is an error even for a lenient session. -/
def openScript (files : FileStore) (path : Path) (previous : π) (echoLevel : Int) (strict : Bool) :
    Except Escape (Session π × List Log.Record) :=
  match files.openFile path with
  | .ok (file, octets) => .ok (⟨path, previous, echoLevel, .opened (.atStart file octets)⟩, [])
  | .error .embeddedNull => .error .embeddedNull
  | .error (.refused fault) =>
    if strict then .error (.scriptUnreadable path)
    else
      let s : Session π := ⟨path, previous, echoLevel, .absent⟩
      .ok (s, [s.record .error
        ((Escape.scriptUnreadable path).message ++ ": ".toList ++ fault.message path)])

/-- Whether the script is open. -/
def isOpen (s : Session π) : Bool :=
  match s.stream with
  | .opened _ => true
  | _ => false

/-- How many lines have been read; nothing for a session that never had a script. -/
def line? (s : Session π) : Option Nat :=
  match s.stream with
  | .absent => none
  | .opened script => some script.reader.line
  | .closed script => some script.reader.line

/-- Closes the script. -/
def close (s : Session π) : Session π :=
  match s.stream with
  | .opened script => { s with stream := .closed script }
  | _ => s

/-- Reads one command without running it: the command, the records made, and the session after it.
Without a script there is only the exit command; a script that is closed cannot be read. -/
def readCommand (s : Session π) : Except Escape (Text × List Log.Record × Session π) :=
  match s.stream with
  | .absent => .ok (exitCommand, [], s)
  | .closed _ => .error .closedScript
  | .opened script =>
    let reading := script.reader.read
    .ok (reading.command, reading.records,
      { s with stream := .opened (script.withReader reading.reader) })

end Session

end CommandScript
