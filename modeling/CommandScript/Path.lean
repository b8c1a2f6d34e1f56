import CommandScript.Text.Blank

/-!
# Paths

A path names a file by a **root** and the names on the way to it. Reading a path drops empty names
and names that are a single dot; two dots stay, since where they lead depends on the files. Exactly
two slashes at the start are a root of their own, and any other number of them is the one slash.
`text` writes a path in its normal form.
-/
namespace CommandScript

/-- Where a path starts. -/
inductive Path.Root where
  /-- At the working directory. -/
  | here
  /-- At the root of all files. -/
  | top
  /-- At the root of all files, written with two slashes. -/
  | doubleTop
  deriving DecidableEq, Repr

/-- A **path** to a file or a directory. -/
structure Path where
  /-- Where the path starts. -/
  root : Path.Root
  /-- The names from there on. -/
  names : List Text
  deriving DecidableEq, Repr

namespace Path

/-- The root that a number of slashes at the start means. -/
def Root.ofSlashes : Nat → Root
  | 0 => .here
  | 2 => .doubleTop
  | _ => .top

/-- The slashes of a root. -/
def Root.text : Root → Text
  | .here => []
  | .top => ['/']
  | .doubleTop => ['/', '/']

/-- Whether a piece between slashes is a name: the empty piece and the single dot are not. -/
def isName (piece : Text) : Bool := piece != [] && piece != ['.']

/-- Reads a path. -/
def ofText (t : Text) : Path where
  root := .ofSlashes (t.takeWhile (· = '/')).length
  names := (Text.fields '/' t).filter isName

/-- The normal form of a path; the path of no names at the working directory is a dot. -/
def text (p : Path) : Text :=
  match p.root, p.names with
  | .here, [] => ['.']
  | root, names => root.text ++ ['/'].intercalate names

end Path

end CommandScript
