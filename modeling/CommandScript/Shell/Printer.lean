import CommandScript.Shell.Tree

/-!
# Trees as text

A tree written as a command line again. The words keep their spelling; what is around them has one
form only: functions are laid out in lines, and command lines by themselves stand in one line as far
as possible.
-/
namespace CommandScript.Shell

/-- A redirection as a line of commands has it. -/
def Redirect.shown (r : Redirect) : Text :=
  let channel (usual : Option Nat) (always : Bool) : Text := match r.handle with
    | some (.fresh name) => '\x7b' :: name ++ ['\x7d']
    | some (.number n) => if some n = usual ∧ !always then [] else Shell.shown n
    | none => match usual with
      | some n => if always then Shell.shown n else []
      | none => []
  match r.kind with
  | .duplicate reads => channel (some (if reads then 0 else 1)) true ++ r.sign ++ r.target.raw
  | .update => channel (some 0) true ++ r.sign ++ ' ' :: r.target.raw
  | .document _ _ _ => channel (some 0) false ++ r.sign ++ r.target.raw
  | .input => channel (some 0) false ++ r.sign ++ ' ' :: r.target.raw
  | .given => channel (some 0) false ++ r.sign ++ ' ' :: r.target.raw
  | .both _ => r.sign ++ ' ' :: r.target.raw
  | _ => channel (some 1) false ++ r.sign ++ ' ' :: r.target.raw

/-- The texts in the lines after a command that belong to its redirections. -/
def documentTexts (rs : List Redirect) : Text :=
  let t := rs.flatMap fun r ↦ match r.kind with
    | .document _ _ source => source ++ r.target.unquoted ++ ['\n']
    | _ => []
  if t.isEmpty then [] else '\n' :: t

/-- Redirections after a command, without the texts in the lines after it. -/
def shownRedirects (rs : List Redirect) : Text := rs.flatMap fun r ↦ ' ' :: r.shown

/-- A condition as a command line has it. -/
def Condition.shown : Condition → Text
  | .word w => "-n ".toList ++ w.raw
  | .unary operator w => operator ++ ' ' :: w.raw
  | .binary left operator right => left.raw ++ ' ' :: operator ++ ' ' :: right.raw
  | .negated c => "! ".toList ++ c.shown
  | .enclosed c => "( ".toList ++ c.shown ++ " )".toList
  | .both left right => left.shown ++ " && ".toList ++ right.shown
  | .either left right => left.shown ++ " || ".toList ++ right.shown

/-- A simple command as a line of commands has it. -/
def simpleLine (words : List Word) (rs : List Redirect) : Text :=
  let t := [' '].intercalate (words.map Word.raw) ++ shownRedirects rs
  if words.isEmpty then t.drop 1 else t

/-- A simple command as a command line has it. -/
def shownSimple (words : List Word) (rs : List Redirect) : Text :=
  simpleLine words rs ++ documentTexts rs

/-- The words of a loop as a command line has them. -/
def shownLoopWords : Option (List Word) → Text
  | none => "\"$@\"".toList
  | some words => [' '].intercalate (words.map Word.raw)

/-- The text with what ends a command behind it. -/
def ended (t : Text) : Text :=
  match t.getLast? with
  | some '&' => t
  | some '\n' => t
  | _ => t ++ [';']

/-- A line end and blanks. -/
def lineBreak (depth : Nat) : Text := '\n' :: List.replicate (4 * depth) ' '

/-- Where a command stands in a list or a pipeline. -/
inductive Standing where
  /-- At its start. -/
  | first
  /-- Later. -/
  | later
  /-- Second, after a command to which texts in the lines after it belong. -/
  | afterText
  deriving DecidableEq, Repr

/-- Whether a command ends with redirections. -/
def Tree.isRedirected : Tree → Bool
  | .simple _ _ rs => !rs.isEmpty
  | .redirected _ _ => true
  | _ => false

/-- Whether the body of a function is written between braces as it is. -/
def Tree.isGroup : Tree → Bool
  | .group _ => true
  | .redirected (.group _) _ => true
  | _ => false

/-- A command and a sign after it. Texts in the lines after the command come after the sign. -/
def signedBy (sign : String) (t : Text × Text) : Text :=
  t.1 ++ sign.toList ++ if t.2.isEmpty then [] else t.2 ++ [' ']

/-- A tree at a depth of indentation, in lines or as far as possible in one. The texts in the lines
after a last command stand apart, since the sign of a list comes before them. -/
def Tree.layOut (inLines : Bool) : Standing → Nat → Tree → Text × Text
  | _, _, .nothing => ([], [])
  | _, _, .simple _ words rs => (simpleLine words rs, documentTexts rs)
  | _, d, .subshell _ body =>
    let (t, texts) := body.layOut inLines .first d
    ("( ".toList ++ t ++ texts ++ " )".toList, [])
  | _, d, .group body =>
    if inLines then
      let (t, texts) := body.layOut inLines .first (d + 1)
      ("\x7b ".toList ++ lineBreak (d + 1) ++ t ++ texts ++ lineBreak d ++ ['\x7d'], [])
    else
      let (t, texts) := body.layOut inLines .first d
      ("\x7b ".toList ++ ended (t ++ texts) ++ " \x7d".toList, [])
  | _, d, .redirected body rs =>
    let (t, texts) := body.layOut inLines .first d
    (t ++ texts ++ shownRedirects rs, documentTexts rs)
  | standing, d, .pipe left right =>
    let l := left.layOut inLines .first d
    let (r, texts) := right.layOut inLines .later d
    let start := if standing = .first then signedBy " |" l else l.1 ++ l.2 ++ " |".toList
    (start ++ ' ' :: r ++ texts, [])
  | _, d, .negated t =>
    let (t, texts) := t.layOut inLines .first d
    ("! ".toList ++ t, texts)
  | _, d, .timed plainly t =>
    let (t, texts) := t.layOut inLines .first d
    ((if plainly then "time -p " else "time ").toList ++ t, texts)
  | _, d, .background t => (signedBy " &" (t.layOut inLines .first d), [])
  | _, d, .both left right =>
    let (r, texts) := right.layOut inLines .first d
    (signedBy " && " (left.layOut inLines .first d) ++ r ++ texts, [])
  | _, d, .either left right =>
    let (r, texts) := right.layOut inLines .first d
    (signedBy " || " (left.layOut inLines .first d) ++ r ++ texts, [])
  | standing, d, .sequence left right =>
    let (l, belonging) := left.layOut inLines .first d
    let leaves := !belonging.isEmpty || standing = .afterText && !left.isRedirected
    let isBeside := left matches .background _
    let joint : Text := if isBeside then [' ']
      else (if leaves then [] else [';']) ++ if inLines then lineBreak d else [' ']
    let next : Standing := if standing = .first ∧ !belonging.isEmpty then .afterText else .later
    let (r, texts) := right.layOut inLines next d
    (l ++ belonging ++ joint ++ r ++ texts, [])
  | _, d, .branch test yes no =>
    let (t, ts) := test.layOut inLines .first d
    let (y, ys) := yes.layOut inLines .first (d + 1)
    let (n, ns) := no.layOut inLines .first (d + 1)
    ("if ".toList ++ ended (t ++ ts) ++ " then".toList ++ lineBreak (d + 1) ++ ended (y ++ ys) ++
      (if no.isNothing then [] else lineBreak d ++ "else".toList ++ lineBreak (d + 1) ++
        ended (n ++ ns)) ++ lineBreak d ++ "fi".toList, [])
  | _, d, .loop whileTrue test body =>
    let (t, ts) := test.layOut inLines .first d
    let (b, bs) := body.layOut inLines .first (d + 1)
    ((if whileTrue then "while " else "until ").toList ++ ended (t ++ ts) ++ " do".toList ++
      lineBreak (d + 1) ++ ended (b ++ bs) ++ lineBreak d ++ "done".toList, [])
  | _, d, .each _ name words body =>
    let (b, bs) := body.layOut inLines .first (d + 1)
    ("for ".toList ++ name ++ " in ".toList ++ shownLoopWords words ++ ';' :: lineBreak d ++
      "do".toList ++ lineBreak (d + 1) ++ ended (b ++ bs) ++ lineBreak d ++ "done".toList, [])
  | _, d, .menu _ name words body =>
    let (b, bs) := body.layOut inLines .first (d + 1)
    ("select ".toList ++ name ++ " in ".toList ++ shownLoopWords words ++ ';' :: lineBreak d ++
      "do".toList ++ lineBreak (d + 1) ++ ended (b ++ bs) ++ lineBreak d ++ "done".toList, [])
  | _, d, .count _ start test step body =>
    let (b, bs) := body.layOut inLines .first (d + 1)
    ("for ((".toList ++ start ++ "; ".toList ++ test ++ "; ".toList ++ step ++ "))".toList ++
      lineBreak d ++ "do".toList ++ lineBreak (d + 1) ++ ended (b ++ bs) ++ lineBreak d ++
      "done".toList, [])
  | _, d, .select _ w choices =>
    ("case ".toList ++ w.raw ++ " in ".toList ++ (choices.layOut inLines .first (d + 1)).1 ++
      lineBreak d ++ "esac".toList, [])
  | _, d, .choice patterns body ending others =>
    let (b, bs) := body.layOut inLines .first (d + 1)
    (lineBreak d ++ " | ".toList.intercalate (patterns.map Word.raw) ++
      ')' :: (if body.isNothing then ['\n'] else lineBreak (d + 1) ++ b ++ bs) ++ lineBreak d ++
      (match ending with
        | .stops => ";;".toList
        | .fallsThrough => ";&".toList
        | .goesOn => ";;&".toList) ++ (others.layOut inLines .first d).1, [])
  | _, _, .condition _ c => ("[[ ".toList ++ c.shown ++ " ]]".toList, [])
  | _, _, .arithmetic _ source => ("((".toList ++ source ++ "))".toList, [])
  | _, d, .define _ name body =>
    let (b, bs) := body.layOut true .first (if body.isGroup then d else d + 1)
    let t := if body.isGroup then b ++ bs
      else "\x7b ".toList ++ lineBreak (d + 1) ++ b ++ bs ++ lineBreak d ++ ['\x7d']
    ("function ".toList ++ name ++ " () ".toList ++ lineBreak d ++ t, [])

/-- A command line as one text, as far as possible in one line. -/
def Tree.shown (t : Tree) : Text :=
  let (line, texts) := t.layOut false .first 0
  line ++ texts

/-- A function laid out in lines. -/
def shownFunction (name : Text) (body : Tree) : Text :=
  let (b, bs) := body.layOut true .first (if body.isGroup then 0 else 1)
  let t := if body.isGroup then b ++ bs
    else "\x7b ".toList ++ lineBreak 1 ++ b ++ bs ++ lineBreak 0 ++ ['\x7d']
  name ++ " () \n".toList ++ t ++ ['\n']

end CommandScript.Shell
