import CommandScript.Text.Lines
import Mathlib.Data.List.Basic

/-!
# Line ends

There are three line ends, of which a carriage return is one only when no line feed follows it.
`unifyLineEnds` writes each of them as a line feed (`unifyLineEnds_text_append`) and leaves
everything else as it is (`unifyLineEnds_append`), so a text that is written with any of them reads
as it was (`unifyLineEnds_withLineEnds`).
-/
namespace CommandScript.Text

/-- The **line ends**. -/
inductive LineEnd where
  /-- A line feed. -/
  | lineFeed
  /-- A carriage return and a line feed. -/
  | both
  /-- A carriage return that no line feed follows. -/
  | carriageReturn
  deriving DecidableEq, Repr

/-- The characters of a line end. -/
def LineEnd.text : LineEnd → Text
  | .lineFeed => ['\n']
  | .both => ['\r', '\n']
  | .carriageReturn => ['\r']

/-- The octets of a line end. -/
def LineEnd.octets : LineEnd → List UInt8
  | .lineFeed => [0x0A]
  | .both => [0x0D, 0x0A]
  | .carriageReturn => [0x0D]

/-- A text with another line end for each of its line feeds. -/
def withLineEnds (e : LineEnd) (t : Text) : Text :=
  t.flatMap fun c ↦ if c = '\n' then e.text else [c]

@[simp] theorem unifyLineEnds_nil : unifyLineEnds [] = [] := by rw [unifyLineEnds]

theorem unifyLineEnds_cons {c : Char} (rest : Text) (h : c ≠ '\r') :
    unifyLineEnds (c :: rest) = c :: unifyLineEnds rest := by
  rw [unifyLineEnds]
  · exact fun _ hc _ ↦ h hc
  · exact h

theorem unifyLineEnds_return_cons {rest : Text} (h : rest.head? ≠ some '\n') :
    unifyLineEnds ('\r' :: rest) = '\n' :: unifyLineEnds rest := by
  rw [unifyLineEnds]
  rintro after rfl
  exact h rfl

theorem unifyLineEnds_return_newline_cons (rest : Text) :
    unifyLineEnds ('\r' :: '\n' :: rest) = '\n' :: unifyLineEnds rest := by rw [unifyLineEnds]

/-- Each line end is written as a line feed. -/
theorem unifyLineEnds_text_append (e : LineEnd) {rest : Text}
    (h : e = .carriageReturn → rest.head? ≠ some '\n') :
    unifyLineEnds (e.text ++ rest) = '\n' :: unifyLineEnds rest := by
  cases e with
  | lineFeed => exact unifyLineEnds_cons rest (by decide)
  | both => exact unifyLineEnds_return_newline_cons rest
  | carriageReturn => exact unifyLineEnds_return_cons (h rfl)

/-- What holds no carriage return is not touched. -/
theorem unifyLineEnds_append {body : Text} (rest : Text) (h : '\r' ∉ body) :
    unifyLineEnds (body ++ rest) = body ++ unifyLineEnds rest := by
  induction body with
  | nil => rfl
  | cons c body ih =>
    rw [List.mem_cons, not_or] at h
    rw [List.cons_append, unifyLineEnds_cons _ (Ne.symm h.1), ih h.2, List.cons_append]

theorem withLineEnds_cons (e : LineEnd) (c : Char) (t : Text) :
    withLineEnds e (c :: t) = (if c = '\n' then e.text else [c]) ++ withLineEnds e t :=
  List.flatMap_cons ..

theorem withLineEnds_append (e : LineEnd) (s t : Text) :
    withLineEnds e (s ++ t) = withLineEnds e s ++ withLineEnds e t := List.flatMap_append

/-- A text without a line feed has no line end to be written otherwise. -/
theorem withLineEnds_of_not_mem (e : LineEnd) {t : Text} (h : '\n' ∉ t) : withLineEnds e t = t := by
  induction t with
  | nil => rfl
  | cons c t ih =>
    rw [List.mem_cons, not_or] at h
    rw [withLineEnds_cons, if_neg (Ne.symm h.1), ih h.2, List.singleton_append]

/-- With carriage returns alone for line ends there is no line feed. -/
theorem newline_not_mem_withLineEnds_carriageReturn (t : Text) :
    '\n' ∉ withLineEnds .carriageReturn t := by
  intro h
  obtain ⟨c, -, hc⟩ := List.mem_flatMap.1 h
  split at hc
  · exact absurd hc (by decide)
  · next hne => exact hne (List.mem_singleton.1 hc).symm

/-- **Other line ends are written as line feeds again.** -/
theorem unifyLineEnds_withLineEnds (e : LineEnd) {t : Text} (h : '\r' ∉ t) :
    unifyLineEnds (withLineEnds e t) = t := by
  induction t with
  | nil => rfl
  | cons c t ih =>
    rw [List.mem_cons, not_or] at h
    rw [withLineEnds_cons]
    split
    · next hc =>
      have hend : e = .carriageReturn → (withLineEnds e t).head? ≠ some '\n' := by
        rintro rfl hhead
        exact newline_not_mem_withLineEnds_carriageReturn t (List.mem_of_head? hhead)
      rw [unifyLineEnds_text_append e hend, ih h.2, hc]
    · rw [List.singleton_append, unifyLineEnds_cons _ (Ne.symm h.1), ih h.2]

end CommandScript.Text
