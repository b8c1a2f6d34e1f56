import CommandScript.Shell.Opening
import CommandScript.Shell.Start
import CommandScript.Shell.Subshell

/-!
# Shells as programs

A shell that is started as a program reads its options, and then runs a command line that it has
been given, the commands in a file, or those in its input. It knows of its surroundings what every
program knows: the environment, the channels and the working directory.
-/
namespace CommandScript.Shell

/-- What a shell that is started as a program is told to do. -/
structure Invocation where
  /-- The switches that are turned on. -/
  on : List Switch := []
  /-- The switches that are turned off. -/
  off : List Switch := []
  /-- The features that are turned on. -/
  features : List String := []
  /-- Whether the first argument is a command line. -/
  commandLine : Bool := false
  /-- Whether the commands are in the input. -/
  fromInput : Bool := false
  /-- The arguments after the options. -/
  arguments : List Text := []

/-- What is wrong with the options of a shell that is started as a program. -/
inductive Invocation.Fault where
  /-- There is no such option. -/
  | option (written : Text)
  /-- There is no switch of a name. -/
  | switch (name : Text)
  /-- There is no feature of a name. -/
  | feature (name : Text)
  deriving DecidableEq, Repr

namespace Invocation

/-- The invocation with a switch turned on or off. -/
def turned (i : Invocation) (on : Bool) (switch : Switch) : Invocation :=
  if on then { i with on := switch :: i.on } else { i with off := switch :: i.off }

/-- The letters of switches that a shell of the standard knows. -/
def standardLetters : Text := "abCefmnpuvxI".toList

/-- The switch that a letter turns on or off. -/
def switchOf? (dialect : Dialect) (letter : Char) : Option Switch :=
  (Switch.ofLetter? letter).filter fun _ ↦
    dialect = .extended || standardLetters.contains letter

/-- Reads the letters of one option, which may ask for the next argument. -/
def readLetters (dialect : Dialect) (on : Bool) (i : Invocation) : Text → List Text →
    Except (Fault × Invocation) (Invocation × List Text)
  | [], rest => .ok (i, rest)
  | c :: letters, rest =>
    if c = 'c' then readLetters dialect on { i with commandLine := true } letters rest
    else if c = 's' then readLetters dialect on { i with fromInput := true } letters rest
    else if c = 'i' ∨ c = 'l' ∨ c = 'r' ∨ c = 'D' then readLetters dialect on i letters rest
    else if c = 'o' then
      match rest with
      | name :: rest =>
        match Switch.ofName? name with
        | some switch => readLetters dialect on (i.turned on switch) letters rest
        | none => .error (.switch name, i)
      | [] => .ok (i, [])
    else if c = 'O' ∧ dialect = .extended then
      match rest with
      | name :: rest =>
        if featureNames.contains (String.ofList name) then
          let i := { i with features := String.ofList name :: i.features }
          readLetters dialect on i letters rest
        else .error (.feature name, i)
      | [] => .ok (i, [])
    else match switchOf? dialect c with
      | some switch => readLetters dialect on (i.turned on switch) letters rest
      | none => .error (.option [if on then '-' else '+', c], i)

/-- Reads the arguments of a shell. -/
def read (dialect : Dialect) :
    Nat → Invocation → List Text → Except (Fault × Invocation) Invocation
  | 0, i, rest => .ok { i with arguments := rest }
  | n + 1, i, arguments =>
    match arguments with
    | ['-', '-'] :: rest => .ok { i with arguments := rest }
    | ['-'] :: rest => .ok { i with arguments := rest }
    | ('-' :: '-' :: word) :: rest =>
      if dialect = .extended then
        match String.ofList word with
        | "norc" | "noprofile" | "login" | "noediting" | "restricted" => read dialect n i rest
        | "posix" => read dialect n (i.turned true .posix) rest
        | "verbose" => read dialect n (i.turned true .verbose) rest
        | "rcfile" | "init-file" => read dialect n i (rest.drop 1)
        | _ => .error (.option ('-' :: '-' :: word), i)
      else .error (.option "--".toList, i)
    | (sign :: c :: letters) :: rest =>
      if sign = '-' ∨ sign = '+' then
        match readLetters dialect (sign = '-') i (c :: letters) rest with
        | .ok (i, rest) => read dialect n i rest
        | .error fault => .error fault
      else .ok { i with arguments := arguments }
    | arguments => .ok { i with arguments := arguments }

/-- How a shell of a name is called. -/
def usage (name : Text) : Text :=
  "Usage:\t".toList ++ name ++ " [GNU long option] [option] ...\n\t".toList ++ name ++
    (" [GNU long option] [option] script-file ...\nGNU long options:\n\t--debug\n\t" ++
      "--debugger\n\t--dump-po-strings\n\t--dump-strings\n\t--help\n\t--init-file\n\t" ++
      "--login\n\t--noediting\n\t--noprofile\n\t--norc\n\t--posix\n\t--pretty-print\n\t" ++
      "--rcfile\n\t--restricted\n\t--verbose\n\t--version\nShell options:\n\t" ++
      "-ilrsD or -c command or -O shopt_option\t\t(invocation only)\n\t" ++
      "-abefhkmnptuvxBCEHPT or -o option\n").toList

/-- What a shell of a name says of a fault in its options. -/
def Fault.complaint (dialect : Dialect) (name : Text) (fails : Bool) : Fault → Text
  | .option written =>
    if dialect = .extended then
      name ++ ": ".toList ++ written ++ ": invalid option\n".toList ++
        if fails then [] else usage name
    else name ++ ": 0: Illegal option ".toList ++ written ++ ['\n']
  | .switch t =>
    if dialect = .extended then
      name ++ ": line 0: ".toList ++ name ++ ": ".toList ++ t ++ ": invalid option name\n".toList
    else name ++ ": 0: Illegal option -o ".toList ++ t ++ ['\n']
  | .feature t => name ++ ": line 0: ".toList ++ t ++ ": invalid shell option name\n".toList

end Invocation

section Shells

variable (run : Runner)

/-- Runs the commands that the input holds, line by line. What a command reads of the input is no
command any more. -/
def runInput (place : Place) (voice : Text) : Nat → Nat → Act Unit
  | 0, _ => return
  | n + 1, line => do
    let t := (← peekAll 0).getD []
    let s ← get
    let source := if s.isStandard ∨ t.getLast? = some '\n' ∨ t.isEmpty then t else t ++ ['\n']
    let lines := line + source.count '\n'
    match readLine s.rules lines source with
    | .error f =>
      skipOctets 0 t.length
      tellFault voice source lines f
    | .ok none => skipOctets 0 t.length
    | .ok (some (tree, after)) =>
      skipOctets 0 (source.length - after.length)
      let result ← attempt (run place tree)
      match result with
      | .ok () => pure ()
      | .error leave => dropLine leave
      runInput place voice n (line + (before source after).count '\n')

/-- Runs a shell as a program in the present process. -/
def runShell (dialect : Dialect) (name : Text) : Utility := fun arguments ↦ do
  let s ← get
  let isExtended := dialect = .extended
  let refuseUse (message : Text) : Act Nat := do
    tellLine (name ++ (if isExtended then ": " else ": 0: ").toList ++ message)
    return 2
  match Invocation.read dialect (arguments.length + 1) {} arguments with
  | .error (fault, i) =>
    let fails := i.on.contains .errexit
    tell (fault.complaint dialect name fails)
    return if fails ∧ isExtended then 1 else 2
  | .ok i =>
    let start (called : Text) (arguments : List Text) (origin : Text) : Self :=
      let b : Beginning := {
        dialect, called, arguments, origin
        environment := s.environment
        switches := i.on
        process := s.process
        around := s.around
        mask := s.mask
        channels := s.channels
        functions := if isExtended then s.functions else []
        traps := s.traps }
      let self := { b.self s.files with deadline := s.deadline }
      { self with
        switches := self.switches.filter (!i.off.contains ·)
        features := i.features ++ self.features }
    let go (self : Self) (act : Act Unit) : Act Nat := do
      match ← inShell run self s.files.here (s.handedDown false) (andAlways act (runJobs run)) with
      | some signal => throw (.killed signal)
      | none => return (← get).status
    let voiced (called : Text) : Text := called ++ ": ".toList
    if i.commandLine then
      match i.arguments with
      | [] => refuseUse (if isExtended then "-c: option requires an argument".toList
          else "-c requires an argument".toList)
      | source :: rest =>
        let called := rest.headD name
        go (start called (rest.drop 1) (if isExtended then ['c'] else []))
          (do
            if isExtended then keepSource source
            let voice := called ++ (if isExtended then ": -c: " else ": ").toList
            runSource run Place.outermost voice 1 source)
    else if i.fromInput ∨ i.arguments.isEmpty then
      go (start name i.arguments ['s']) do
        if isExtended then
          let size := ((← peekAll 0).getD []).length
          runInput run Place.inner (voiced name) (size + 2) 1
        else
          let source := (← readAll 0).toOption.getD []
          runSource run Place.inner (voiced name) 1 source
    else
      let file := i.arguments.headD []
      match ← readFile file with
      | .ok source =>
        go (start file (i.arguments.drop 1) [])
          (runSource run Place.inner (voiced file) 1 source)
      | .error .isDirectory =>
        if isExtended then
          tellLine (file ++ ": ".toList ++ file ++ ": Is a directory".toList)
          return 126
        else return 0
      | .error f =>
        if isExtended then
          tellLine (name ++ ": ".toList ++ file ++ ": ".toList ++ f.words)
          return 127
        else refuseUse ("cannot open ".toList ++ file ++ ": No such file".toList)

end Shells

end CommandScript.Shell
