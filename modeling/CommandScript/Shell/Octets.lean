import CommandScript.Text.Quoted
import CommandScript.Text.Utf8

/-!
# Octets of the shell

Within the shell a text is a row of octets, each written as the character of its number. `toOctets`
and `ofOctets` lead into that form and out of it. Where characters count and not octets, `wide`
puts the octets of each character together, and `narrow` takes them apart again; an octet that is
no part of a character becomes a mark of its own, so that nothing is lost.
-/
namespace CommandScript.Shell

/-- The octets of a text, each as a character. -/
def toOctets (t : Text) : Text := (Text.Utf8.encode t).map fun b ↦ Char.ofNat b.toNat

/-- Octets written as characters, as octets again. -/
def ofOctets (t : Text) : List UInt8 := t.map fun c ↦ c.toNat.toUInt8

/-- The octets of a file written as characters. -/
def ofFile (octets : List UInt8) : Text := octets.map fun b ↦ Char.ofNat b.toNat

/-- Whether a character is one of the seven bits of ASCII. -/
def isAscii (c : Char) : Bool := c.toNat < 0x80

/-- The first of the marks for octets that are no part of a character. -/
def strayMark : Nat := 0x10FE00

/-- Whether a character is the mark of an octet that is no part of one. -/
def isStray (c : Char) : Bool := strayMark ≤ c.toNat && c.toNat < strayMark + 0x100

/-- The characters that octets spell, with a mark for every octet that is no part of one. -/
def wide (t : Text) : Text :=
  if t.all isAscii then t
  else (Text.Utf8.pieces (ofOctets t)).flatMap fun
    | .char c => [c]
    | .ill octets _ => octets.map fun b ↦ Char.ofNat (strayMark + b.toNat)

/-- The octets of characters, where a mark stands for its octet. -/
def narrow (t : Text) : Text :=
  if t.all isAscii then t
  else t.flatMap fun c ↦
    if isStray c then [Char.ofNat (c.toNat - strayMark)]
    else toOctets [c]

/-- Whether an octet is a space of some kind: a blank, a line end or a form feed. -/
def isSpace (c : Char) : Bool := c = ' ' || ('\t' ≤ c && c ≤ '\r')

/-- Whether a character separates words. -/
def isShellBlank (c : Char) : Bool := c = ' ' || c = '\t'

/-- Whether a character can open the name of a variable. -/
def opensName (c : Char) : Bool := c.isAlpha || c = '_'

/-- Whether a character can be a part of the name of a variable. -/
def withinName (c : Char) : Bool := opensName c || c.isDigit

/-- Whether a text is the name of a variable. -/
def isVariableName (t : Text) : Bool := (t.head?.map opensName).getD false && t.all withinName

/-- A text that is not empty and has nothing but digits. -/
def isDigits (t : Text) : Bool := !t.isEmpty && t.all Char.isDigit

/-- A number as a text. -/
def shown (n : Nat) : Text := (toString n).toList

/-- The lines of a text without their line feeds. -/
def linesOf (t : Text) : List Text :=
  match (Text.fields '\n' t).reverse with
  | [] :: rest => rest.reverse
  | parts => parts.reverse

/-- Lines with a line feed after each. -/
def ofLines (lines : List Text) : Text := lines.flatMap fun line ↦ line ++ ['\n']

/-- A text between the signs that a message quotes it with. -/
def citedText (t : Text) : Text := '\x60' :: t ++ [Text.singleQuote]

/-- A text between the curved quotes of the messages of utilities. -/
def curled (t : Text) : Text := toOctets ['‘'] ++ t ++ toOctets ['’']

/-- The words of a text between spaces. -/
def wordsOf (t : Text) : List Text :=
  (Text.fields ' ' (t.map fun c ↦ if isSpace c then ' ' else c)).filter (!·.isEmpty)

end CommandScript.Shell
