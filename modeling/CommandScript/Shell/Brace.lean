import CommandScript.Shell.Number
import CommandScript.Shell.Word

/-!
# Braces

Before anything else is expanded, a word with braces becomes several words: one for each of the
parts between commas, or one for each step from one number or letter to another. Braces that are
quoted, or that hold neither commas nor two dots, stay as they are.
-/
namespace CommandScript.Shell

/-- A word cut into its smallest parts: single characters without quotes, and whole pieces. -/
abbrev Atoms := List (Char ⊕ Piece)

/-- The smallest parts of pieces. -/
def atomsOf (pieces : List Piece) : Atoms :=
  pieces.flatMap fun
    | .literal false t => t.map .inl
    | p => [.inr p]

/-- The pieces that smallest parts make. -/
def ofAtoms (a : Atoms) : List Piece :=
  a.foldr (fun
    | .inl c, ps => pushPiece (.literal false [c]) ps
    | .inr p, ps => pushPiece p ps) []

/-- The parts between the commas of one brace that has been opened, and what follows it. -/
def bracedParts : Nat → Atoms → Option (List Atoms × Atoms)
  | _, [] => none
  | depth, a :: rest =>
    let keep (depth : Nat) : Option (List Atoms × Atoms) :=
      (bracedParts depth rest).map fun (parts, after) ↦
        (match parts with
          | [] => [[a]]
          | part :: parts => (a :: part) :: parts, after)
    match a, depth with
    | .inl '\x7d', 0 => some ([[]], rest)
    | .inl '\x7d', depth + 1 => keep depth
    | .inl '\x7b', depth => keep (depth + 1)
    | .inl ',', 0 => (bracedParts 0 rest).map fun (parts, after) ↦ ([] :: parts, after)
    | _, depth => keep depth

/-- The characters of smallest parts, when none of them is a piece. -/
def plainAtoms (a : Atoms) : Option Text :=
  a.mapM fun
    | .inl c => some c
    | .inr _ => none

/-- The numbers from one to another by a step. -/
def stepsBetween (first last step : Int) : List Int :=
  let size := if step = 0 then 1 else step.natAbs
  let sign : Int := if first ≤ last then 1 else -1
  (List.range ((last - first).natAbs / size + 1)).map fun (i : Nat) ↦
    first + sign * (i * size : Nat)

/-- A number with zeros in front up to a width. -/
def zeroPadded (width : Nat) (n : Int) : Text :=
  let digits := Text.ofInt n.natAbs
  let sign : Text := if n < 0 then ['-'] else []
  sign ++ List.replicate (width - digits.length - sign.length) '0' ++ digits

/-- The members of a sequence with two dots in it. -/
def sequence? (t : Text) : Option (List Text) :=
  let parts := match Text.fields '.' t with
    | [first, [], last] => some (first, last, some 1)
    | [first, [], last, [], step] => some (first, last, wholeNumber? step)
    | _ => none
  match parts with
  | some (first, last, some step) =>
    match wholeNumber? first, wholeNumber? last, first, last with
    | some m, some n, _, _ =>
      let padded (t : Text) : Bool :=
        let digits := (splitSign t).2
        1 < digits.length && digits.head? == some '0'
      let width := if padded first || padded last then max first.length last.length else 0
      some ((stepsBetween m n step).map (zeroPadded width))
    | _, _, [c], [d] =>
      if c.isAlpha && d.isAlpha then
        some ((stepsBetween c.toNat d.toNat step).map fun n ↦ [Char.ofNat n.toNat])
      else none
    | _, _, _, _ => none
  | _ => none

/-- The words that smallest parts stand for. -/
def expandBraces : Nat → Atoms → List Atoms
  | 0, a => [a]
  | _, [] => [[]]
  | n + 1, .inl '\x7b' :: rest =>
    let literally (_ : Unit) : List Atoms := (expandBraces n rest).map (.inl '\x7b' :: ·)
    match bracedParts 0 rest with
    | none => literally ()
    | some (parts, after) =>
      let inside : Option (List Atoms) := match parts with
        | [part] => ((plainAtoms part).bind sequence?).map (·.map (·.map .inl))
        | parts => some (parts.flatMap (expandBraces n))
      match inside with
      | none => literally ()
      | some heads =>
        let tails := expandBraces n after
        heads.flatMap fun head ↦ tails.map (head ++ ·)
  | n + 1, a :: rest => (expandBraces n rest).map (a :: ·)

/-- The words that a word with braces stands for, all of them as pieces. -/
def bracedWords (pieces : List Piece) : List (List Piece) :=
  let opens (p : Piece) : Bool := match p with
    | .literal false t => t.contains '\x7b'
    | _ => false
  if pieces.any opens then
    let a := atomsOf pieces
    (expandBraces (a.length + 1) a).map ofAtoms
  else [pieces]

end CommandScript.Shell
