import CommandScript.Proofs.Decoding
import CommandScript.Proofs.LineEnds
import CommandScript.Proofs.Readings
import CommandScript.Script.Decoder
import CommandScript.Script

/-!
# Saving a script

A text can be saved in six ways: with or without a byte order mark, and with any of the three line
ends. Whichever is taken, the file reads as the text (`text_saved`), so its lines and all that is
ever read from them are those of the text (`read_after_saved`).

The text itself holds no carriage return, which would be read as a line end, and does not start with
the character of the mark, which would be read as a mark.
-/
namespace CommandScript.Script

/-! ### The byte order mark -/

/-- The character of the byte order mark. -/
def markCharacter : Char := '\uFEFF'

theorem encodeChar_markCharacter : Text.Utf8.encodeChar markCharacter = mark := by decide

/-- One mark is dropped. -/
theorem withoutMark_mark_append (rest : List UInt8) : withoutMark (mark ++ rest) = rest := rfl

/-- Octets that are no beginning of a mark and do not start with one are all kept. -/
theorem withoutMark_eq_self {octets : List UInt8} (hone : octets ≠ [0xEF])
    (htwo : octets ≠ [0xEF, 0xBB])
    (hmark : ∀ rest, octets ≠ 0xEF :: 0xBB :: 0xBF :: rest) : withoutMark octets = octets := by
  rw [withoutMark]
  · exact hone
  · exact htwo
  · exact hmark

/-- What a text is encoded to that does not start with the character of the mark is kept: read
again, the beginning of a mark would be another text. -/
theorem withoutMark_encode {t : Text} (h : t.head? ≠ some markCharacter) :
    withoutMark (Text.Utf8.encode t) = Text.Utf8.encode t := by
  have hdecode := Text.Utf8.decodeReplacing_encode t
  refine withoutMark_eq_self ?_ ?_ fun rest ↦ ?_
  · intro hencode
    rw [hencode] at hdecode
    rw [← hdecode] at hencode
    exact absurd hencode (by decide)
  · intro hencode
    rw [hencode] at hdecode
    rw [← hdecode] at hencode
    exact absurd hencode (by decide)
  · intro hencode
    have hmark := Text.Utf8.pieces_encodeChar_append markCharacter rest
    rw [encodeChar_markCharacter] at hmark
    rw [hencode, Text.Utf8.decodeReplacing,
      show 0xEF :: 0xBB :: 0xBF :: rest = mark ++ rest from rfl, hmark] at hdecode
    rw [← hdecode] at h
    exact h rfl

/-! ### The six ways to save a text -/

/-- A text **saved**: with or without a mark, and with a line end for each line feed. -/
def saved (marked : Bool) (e : Text.LineEnd) (t : Text) : List UInt8 :=
  (if marked then mark else []) ++ Text.Utf8.encode (Text.withLineEnds e t)

theorem head?_withLineEnds_ne {e : Text.LineEnd} {t : Text}
    (h : t.head? ≠ some markCharacter) :
    (Text.withLineEnds e t).head? ≠ some markCharacter := by
  cases t with
  | nil => exact h
  | cons c t =>
    rw [Text.withLineEnds_cons]
    split
    · cases e <;> exact ne_of_beq_false rfl
    · exact h

/-- **However a text is saved, it is the text that is read.** -/
theorem text_saved (marked : Bool) (e : Text.LineEnd) {t : Text} (hreturn : '\r' ∉ t)
    (hmark : t.head? ≠ some markCharacter) : text (saved marked e t) = t := by
  have hoctets : withoutMark (saved marked e t) = Text.Utf8.encode (Text.withLineEnds e t) := by
    cases marked with
    | true => exact withoutMark_mark_append _
    | false => exact withoutMark_encode (head?_withLineEnds_ne hmark)
  rw [text, hoctets, Text.Utf8.decodeReplacing_encode, Text.unifyLineEnds_withLineEnds e hreturn]

/-- **How a script is saved makes no difference.** A text without carriage returns that does not
start with the character of the mark has the same lines in all six files, and any number of readings
from them give the same commands, line numbers and records as from the text itself. -/
theorem read_after_saved (t : Text) (hreturn : '\r' ∉ t) (hmark : t.head? ≠ some markCharacter)
    (marked : Bool) (e : Text.LineEnd) :
    lines (saved marked e t) = Text.physicalLines t ∧
      ∀ n, ((reader (saved marked e t)).after n).read = ((Reader.ofText t).after n).read := by
  have htext := text_saved marked e hreturn hmark
  refine ⟨by rw [lines, htext], fun n ↦ ?_⟩
  rw [reader, htext]

/-- A text of a comment, an empty line, a line with characters of all four lengths, and a
continuation at the end, saved with a mark and carriage returns. -/
theorem read_after_saved_marked_carriageReturn :
    let t := "# \u0436\n\nsay é € 😀\nbuild _\nall".toList
    '\r' ∉ t ∧ t.head? ≠ some markCharacter ∧
      lines (saved true .carriageReturn t) = Text.physicalLines t ∧
      ∀ n, ((reader (saved true .carriageReturn t)).after n).read =
        ((Reader.ofText t).after n).read := by
  intro t
  have hreturn : '\r' ∉ t := by decide
  have hmark : t.head? ≠ some markCharacter := by decide
  exact ⟨hreturn, hmark, read_after_saved t hreturn hmark true .carriageReturn⟩

end CommandScript.Script
