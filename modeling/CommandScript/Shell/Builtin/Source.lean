import CommandScript.Shell.Builtin.Name
import CommandScript.Shell.Opening
import CommandScript.Shell.Subshell

/-!
# Commands that run sources

Running words as a command line, and the commands in a file, in the shell itself.
-/
namespace CommandScript.Shell

section Running

variable (run : Runner)

/-- The command `eval`. -/
def evaluate (place : Place) : Utility := fun arguments ↦ do
  let s ← get
  let source := [' '].intercalate (if arguments.head? = some "--".toList then arguments.drop 1
    else arguments)
  if source.all isSpace then return 0
  else
    let voice := s.speaker ++ (if s.isStandard then ": " else ": eval: ").toList
    modify fun s ↦ { s with
      nesting := s.nesting + 1
      status := 0
      within := if s.isStandard then "eval: ".toList else [] }
    andAlways (runSource run { place with final := false } voice s.line source)
      (modify fun after ↦ { after with nesting := s.nesting, line := s.line, within := s.within })
    return (← get).status

/-- The path of the file of commands that a name means: one in the directories of programs, or in
the working directory. -/
def sourcePath (s : State) (name : Text) : Option Text :=
  let isFile (path : Text) : Bool := match s.files.find (pathOf path) with
    | .ok .directory => false
    | .ok _ => true
    | .error _ => false
  if name.contains '/' then some name
  else match (programPlaces (s.valueOf "PATH") name).find? isFile with
    | some path => some path
    | none => if s.isStandard then none else some name

/-- Goes on within a file of commands, with arguments of their own if any are given. -/
def withinFile (file : Text) (arguments : List Text) (act : Act Unit) : Act Nat := do
  let s ← get
  let shownFile := if s.isStandard then s.called else file
  set { s with
    frames := ⟨"source".toList, s.line, file, false⟩ :: s.frames
    arguments := if arguments.isEmpty then s.arguments else arguments
    speaker := shownFile
    within := if s.isStandard then file ++ ": ".toList else []
    status := 0 }
  let result ← attempt act
  modify fun after ↦ { after with
    frames := s.frames
    arguments := if arguments.isEmpty then after.arguments else s.arguments
    speaker := s.speaker
    within := s.within
    line := s.line }
  match result with
  | .ok () => return (← get).status
  | .error .returns => return (← get).status
  | .error leave => throw leave

/-- The commands `source` and `.`, by their name. -/
def runFile (place : Place) (command : String) : Utility := fun arguments ↦ do
  let s ← get
  withFlags command "" "" arguments fun f ↦ do
    match f.others with
    | [] =>
      if s.isStandard then return 0
      else
        let _ ← failAs command 2 "filename argument required".toList
        tellUsage command
    | name :: rest =>
      match sourcePath s name with
      | none => refuse .aborts (".: ".toList ++ name ++ ": not found".toList)
      | some path =>
        match ← readFile path with
        | .error .isDirectory => failAs command 1 (name ++ ": is a directory".toList)
        | .error f =>
          if s.isStandard then
            refuse .aborts (".: cannot open ".toList ++ name ++ ": No such file".toList)
          else failWith 1 (name ++ ": ".toList ++ f.words)
        | .ok source =>
          let voice := (if s.isStandard then s.called else path) ++ ": ".toList
          let status ← withinFile path rest
            (runSource run ⟨place.guarded, false, false, 0⟩ voice 1 source)
          runTrapFor run Signal.leaving "return trap"
          return status

end Running

end CommandScript.Shell
