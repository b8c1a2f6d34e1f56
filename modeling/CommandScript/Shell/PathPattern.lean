import CommandScript.Shell.Binding

/-!
# Patterns of paths

A pattern of paths is matched name by name against what directories hold. Names with a dot in front
are found only where the pattern has one, and two stars by themselves may stand for any directories
on the way. What is not found stays as it is written, goes away, or is an error, as the features of
the shell say.
-/
namespace CommandScript.Shell

/-- The path that an argument names. -/
def pathOf (argument : Text) : Path := Path.ofText (wide argument)

/-- A location as the text of a path. -/
def locationText (l : Location) : Text := narrow (Path.text ⟨.top, l⟩)

/-- The names in a directory, in order. -/
def namesIn (files : FileStore) (l : Location) : List Text :=
  let names := (files.entries.filter fun e ↦
    e.1.length == l.length + 1 && FileStore.isBelow l e.1).filterMap fun e ↦ e.1.getLast?
  (names.map narrow).mergeSort fun a b ↦ decide (String.ofList a ≤ String.ofList b)

/-- The names in the directory that a path leads to. -/
def namesAt (files : FileStore) (directory : Text) : List Text :=
  match files.locate (pathOf directory) with
  | .ok l => if files.content? l = some .directory then namesIn files l else []
  | .error _ => []

/-- How names are matched. -/
structure NameRules where
  /-- Whether choices between parentheses have a meaning. -/
  choices : Bool
  /-- Whether a name with a dot in front is like any other one. -/
  dots : Bool
  /-- Whether letters of either case are alike. -/
  eitherCase : Bool
  /-- Whether two stars stand for any directories. -/
  deep : Bool
  deriving DecidableEq, Repr

/-- The rules of a shell for names. -/
def State.nameRules (s : State) : NameRules :=
  ⟨s.hasFeature "extglob", s.hasFeature "dotglob", s.hasFeature "nocaseglob",
    s.hasFeature "globstar"⟩

/-- Whether a name fits a part of a pattern. -/
def NameRules.fits (r : NameRules) (part : Marked) (name : Text) : Bool :=
  let p := Pattern.of r.choices part
  let p := if r.eitherCase then p.eitherCase else p
  (name.head? != some '.' || part.text.head? = some '.' || r.dots) && p.fits (wide name)

/-- Whether a path leads to something, which has to be a directory if more is to follow. -/
def isThere (files : FileStore) (path : Text) (asDirectory : Bool) : Bool :=
  match files.find (pathOf path) (asDirectory || path.getLast? = some '/') with
  | .ok .directory => true
  | .ok _ => !asDirectory
  | .error _ => false

/-- The text of a part of a pattern that stands for itself. -/
def withoutEscapes : Marked → Text
  | [] => []
  | [c] => [c.1]
  | ('\\', true) :: (c, true) :: rest => c :: withoutEscapes rest
  | c :: rest => c.1 :: withoutEscapes rest

/-- The directories that lie in a directory to any depth, after what their paths start with. -/
def directoriesFrom (files : FileStore) (r : NameRules) : Nat → Text → List Text
  | 0, _ => []
  | n + 1, start =>
    (namesAt files (if start.isEmpty then ['.'] else start)).flatMap fun name ↦
      let path := start ++ name
      if (name.head? != some '.' || r.dots) &&
          (files.find (pathOf path) false matches .ok .directory) then
        (path ++ ['/']) :: directoriesFrom files r n (path ++ ['/'])
      else []

/-- The greatest depth of directories that two stars stand for. -/
def maxDirectoryDepth : Nat := 64

/-- The paths that fit a pattern given by its parts between slashes, after what they start with. -/
def pathsFrom (files : FileStore) (r : NameRules) : Text → List Marked → List Text
  | start, [] => [start]
  | start, part :: rest =>
    let joint : Text := if rest.isEmpty then [] else ['/']
    let here : Text := if start.isEmpty then ['.'] else start
    if r.deep ∧ part.text = "**".toList then
      let starts := start :: directoriesFrom files r maxDirectoryDepth start
      if rest.isEmpty then
        (if start.isEmpty then [] else [start]) ++ (starts.flatMap fun start ↦
          ((namesAt files (if start.isEmpty then ['.'] else start)).filter fun name ↦
            name.head? != some '.' || r.dots).map (start ++ ·)).mergeSort
              fun a b ↦ decide (String.ofList a ≤ String.ofList b)
      else starts.flatMap fun start ↦ pathsFrom files r start rest
    else
      let names :=
        if part.isEmpty then [[]]
        else if part.isOpen r.choices then (namesAt files here).filter (r.fits part)
        else [withoutEscapes part]
      (names.filter fun name ↦
        name.isEmpty || isThere files (start ++ name) (!rest.isEmpty)).flatMap fun name ↦
          pathsFrom files r (start ++ name ++ joint) rest

/-- The paths that a field stands for: those that it matches as a pattern, or else the field
itself. -/
def matchingPaths (m : Marked) : Act (List Text) := do
  let s ← get
  let r := s.nameRules
  if s.isOn .noglob ∨ !(m.isOpen r.choices) then return [m.text]
  let found := pathsFrom s.files r [] (m.splitAt '/')
  let found := match s.value? "GLOBIGNORE".toList with
    | some ignored =>
      if ignored.isEmpty then found else
        let shut := (Text.fields ':' ignored).map fun t ↦
          Pattern.of r.choices (Marked.ofText true t)
        found.filter fun path ↦ !(shut.any fun p ↦ p.fits (wide path))
    | none => found
  if !found.isEmpty then return found
  else if s.hasFeature "failglob" then refuse .drops ("no match: ".toList ++ m.text)
  else if s.hasFeature "nullglob" then return []
  else return [m.text]

end CommandScript.Shell
