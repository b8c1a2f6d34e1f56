import CommandScript.Text.Lines
import CommandScript.Text.Utf8

/-!
# Decoding a script piece by piece

A script that is read while it is written comes in pieces, and a piece may end within a byte order
mark, within a character or within a line end. A **decoder** keeps what such a piece leaves open.
The last piece is told to be the last: what is open then is ill formed, or ends a line, all but the
start of a mark, which stays open.
-/
namespace CommandScript.Script

/-- The byte order mark. -/
def mark : List UInt8 := [0xEF, 0xBB, 0xBF]

/-- A **decoder** of a script. -/
structure Decoder where
  /-- Whether a byte order mark may still come. -/
  awaitsMark : Bool
  /-- The octets of a character, or of the mark, that is not complete. -/
  pending : List UInt8
  /-- Whether a carriage return has come to which a line feed may belong. -/
  afterReturn : Bool
  deriving DecidableEq, Repr

namespace Decoder

/-- The decoder at the start of a script. -/
def atStart : Decoder := ⟨true, [], false⟩

/-- The characters of octets, and the octets that are left of one that is not complete. Nothing is
left of the last piece. -/
def characters (isLast : Bool) (octets : List UInt8) : Text × List UInt8 :=
  let (text, state) := octets.foldl (fun (text, state) b ↦
    let (pieces, state) := Text.Utf8.step state b
    (pieces.foldl (fun text piece ↦ piece.replaced :: text) text, state)) (([] : Text), none)
  match state with
  | none => (text.reverse, [])
  | some p =>
    if isLast then ((Text.Utf8.replacement :: text).reverse, []) else (text.reverse, p.read)

/-- The text of a piece without the carriage return at its end, which stays open unless the piece
is the last one; line ends are unified. -/
def lineEnds (isLast afterReturn : Bool) (t : Text) : Text × Bool :=
  let t := if afterReturn && (isLast || !t.isEmpty) then '\r' :: t else t
  if !isLast && t.getLast? == some '\r' then (Text.unifyLineEnds t.dropLast, true)
  else (Text.unifyLineEnds t, afterReturn && t.isEmpty)

/-- Decodes one more piece. -/
def decode (d : Decoder) (isLast : Bool) (piece : List UInt8) : Text × Decoder :=
  let octets := d.pending ++ piece
  if d.awaitsMark && octets.length < mark.length && octets.isPrefixOf mark then
    let (text, afterReturn) := lineEnds isLast d.afterReturn []
    (text, ⟨true, octets, afterReturn⟩)
  else
    let octets := if d.awaitsMark && mark.isPrefixOf octets then octets.drop mark.length
      else octets
    let (text, pending) := characters isLast octets
    let (text, afterReturn) := lineEnds isLast d.afterReturn text
    (text, ⟨false, pending, afterReturn⟩)

end Decoder

end CommandScript.Script
