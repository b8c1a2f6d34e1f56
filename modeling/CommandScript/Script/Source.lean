import CommandScript.Reader
import CommandScript.Script
import CommandScript.Script.Decoder

/-!
# Scripts that change while they are read

A script is read from its file in chunks, and a chunk is only read when the line that is wanted is
not complete. So what is written behind the last chunk is still read, and what has been read already
stays as it was. A **source** knows how far a file has been read; `Opened` is a reader together with
the source of its lines, which is brought up to date when the file has changed.

However a file changes, reading it comes to an end, for no file is longer than an offset can tell
and every line takes an octet of it. `Opened.linesAhead` is how many lines can still come.
-/
namespace CommandScript.Script

/-- How many octets are read at once. -/
def chunkOctets : Nat := 8192

/-- The most octets that a file can hold: its offsets are signed numbers of 64 bits. -/
def maxOctets : Nat := 9223372036854775807

/-- A **source** of lines: how far a file has been read. -/
structure Source where
  /-- How many octets of the file have been read. -/
  offset : Nat
  /-- The decoder after them. -/
  decoder : Decoder
  /-- What has been decoded and is not yet a part of a line. -/
  buffered : Text
  deriving DecidableEq, Repr

namespace Source

/-- The source at the start of a file. -/
def atStart : Source := ⟨0, .atStart, []⟩

/-- The chunks that octets are read in. -/
def chunks : Nat → List UInt8 → List (List UInt8)
  | 0, _ => []
  | n + 1, octets =>
    if octets.isEmpty then []
    else octets.take chunkOctets :: chunks n (octets.drop chunkOctets)

/-- The chunks that are still to be read of a file with the given octets. -/
def chunksLeft (s : Source) (octets : List UInt8) : List (List UInt8) :=
  let left := octets.drop s.offset
  chunks (left.length / chunkOctets + 1) left

/-- The source after a line has been taken from what is buffered, if that holds a whole one. -/
def afterLine? (s : Source) : Option Source :=
  match s.buffered.dropWhile (· != '\n') with
  | _ :: rest => some { s with buffered := rest }
  | [] => none

/-- The source after one more line, for which chunks are read as far as they are needed. At the end
of the file whatever is buffered is a line. -/
def skipLine (s : Source) : List (List UInt8) → Source
  | [] =>
    match s.afterLine? with
    | some s => s
    | none =>
      let (text, decoder) := s.decoder.decode true []
      let s := { s with decoder := decoder, buffered := s.buffered ++ text }
      s.afterLine?.getD { s with buffered := [] }
  | chunk :: rest =>
    match s.afterLine? with
    | some s => s
    | none =>
      let (text, decoder) := s.decoder.decode false chunk
      skipLine ⟨s.offset + chunk.length, decoder, s.buffered ++ text⟩ rest

/-- The source after a number of lines of a file with the given octets. -/
def skipLines (octets : List UInt8) : Nat → Source → Source
  | 0, s => s
  | n + 1, s => skipLines octets n (s.skipLine (s.chunksLeft octets))

/-- The lines that are still to be read of a file with the given octets. -/
def linesLeft (s : Source) (octets : List UInt8) : List Text :=
  let (text, decoder) := s.decoder.decode false (octets.drop s.offset)
  Text.physicalLines (s.buffered ++ text ++ (decoder.decode true []).1)

end Source

/-- An **opened** script: a reader of its lines, and where they come from. -/
structure Opened where
  /-- The number of the file. -/
  file : Nat
  /-- What the file held when the lines of the reader were taken from it. -/
  octets : List UInt8
  /-- How far the file had been read then. -/
  source : Source
  /-- How many lines had been read then. -/
  line : Nat
  /-- The reader. -/
  reader : Reader
  deriving DecidableEq, Repr

namespace Opened

/-- A script at its start, given the number and the octets of its file. -/
def atStart (file : Nat) (octets : List UInt8) : Opened :=
  ⟨file, octets, .atStart, 0, Script.reader octets⟩

/-- The script with its reader further on. -/
def withReader (s : Opened) (r : Reader) : Opened := { s with reader := r }

/-- The script after its next reading. -/
def next (s : Opened) : Opened := s.withReader s.reader.read.reader

/-- The script after its file has changed to the given octets, if they are not the same as before.
What has been read, or decoded ahead of its lines, stays as it was. No line has a greater number
than there can be octets. -/
def updated? (s : Opened) (octets : List UInt8) : Option Opened :=
  if octets = s.octets then none
  else
    let source := s.source.skipLines s.octets (s.reader.line - s.line)
    some { s with
      octets := octets
      source := source
      line := s.reader.line
      reader := ⟨(source.linesLeft octets).take (maxOctets - s.reader.line), s.reader.line⟩ }

/-- The script **up to date** with what its file holds, where that is known to have changed. -/
def upToDate (s : Opened) (octets? : Option (List UInt8)) : Opened :=
  (octets?.bind s.updated?).getD s

/-- How many lines can still be read, whatever becomes of the file. -/
def linesAhead (s : Opened) : Nat := max s.reader.unread.length (maxOctets - s.reader.line)

/-- A reading that does not give the exit command leaves fewer lines to come. -/
theorem linesAhead_next_lt (s : Opened) (h : s.reader.read.command ≠ exitCommand) :
    s.next.linesAhead < s.linesAhead := by
  have hlt := s.reader.length_unread_lt_of_command_ne h
  have hline := Reader.line_add_length_unread_readOn s.reader.line [] s.reader.unread
  simp only [linesAhead, next, withReader, Reader.read] at hlt hline ⊢
  omega

/-- A script up to date is the script as it was, or as it is after a change. -/
theorem upToDate_eq_or_updated? (s : Opened) (octets? : Option (List UInt8)) :
    s.upToDate octets? = s ∨ ∃ octets, s.updated? octets = some (s.upToDate octets?) := by
  rw [upToDate]
  cases hchanged : octets?.bind s.updated? with
  | none => exact .inl rfl
  | some changed =>
    obtain ⟨octets, -, hoctets⟩ := Option.bind_eq_some_iff.1 hchanged
    exact .inr ⟨octets, hoctets⟩

/-- A change leaves no more lines to come than before. -/
theorem linesAhead_updated?_le {s changed : Opened} {octets : List UInt8}
    (h : s.updated? octets = some changed) : changed.linesAhead ≤ s.linesAhead := by
  rw [updated?] at h
  split at h
  · cases h
  · cases h
    have htaken := List.length_take_le (maxOctets - s.reader.line)
      ((s.source.skipLines s.octets (s.reader.line - s.line)).linesLeft octets)
    simp only [linesAhead]
    omega

/-- A script that is brought up to date has no more lines to come than before. -/
theorem linesAhead_upToDate_le (s : Opened) (octets? : Option (List UInt8)) :
    (s.upToDate octets?).linesAhead ≤ s.linesAhead := by
  rcases s.upToDate_eq_or_updated? octets? with hsame | ⟨octets, hchanged⟩
  · exact Nat.le_of_eq (congrArg linesAhead hsame)
  · exact linesAhead_updated?_le hchanged

end Opened

end CommandScript.Script
