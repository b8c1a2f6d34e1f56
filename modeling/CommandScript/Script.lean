import CommandScript.Reader
import CommandScript.Text.Utf8

/-!
# Scripts as files

A script is saved as UTF-8 text, perhaps after a byte order mark, with any of the line ends. Reading
one never fails: `Script.text` drops one mark, puts a replacement character for whatever is ill
formed, and unifies the line ends.
-/
namespace CommandScript.Script

/-- The octets of a script without the byte order mark at its start. A file that is no more than
the beginning of a mark is empty. -/
def withoutMark : List UInt8 → List UInt8
  | [0xEF] => []
  | [0xEF, 0xBB] => []
  | 0xEF :: 0xBB :: 0xBF :: rest => rest
  | octets => octets

/-- The text of a script. -/
def text (octets : List UInt8) : Text :=
  Text.unifyLineEnds (Text.Utf8.decodeReplacing (withoutMark octets))

/-- The physical lines of a script. -/
def lines (octets : List UInt8) : List Text := Text.physicalLines (text octets)

/-- A reader at the start of a script. -/
def reader (octets : List UInt8) : Reader := .ofText (text octets)

end CommandScript.Script
