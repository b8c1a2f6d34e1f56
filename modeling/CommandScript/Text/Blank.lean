/-!
# Texts and blank characters

A text is a list of characters. Most rules of a command script look no further than whether a
character is **blank**, so this module fixes the blank characters once and gives the trimming
functions that rest on them: `trim` is `trimStart` after `trimEnd`, and each of the two removes a
longest run of blanks.
-/
namespace CommandScript

/-- A **text** is a list of Unicode characters. Lines, commands, paths and messages are texts. -/
abbrev Text := List Char

namespace Text

/-- The **blank** characters: the ASCII controls from tab to carriage return and from file
separator to unit separator, the space, and every wider Unicode space and line separator. -/
def isBlank (c : Char) : Bool :=
  let n := c.toNat
  (0x09 ≤ n && n ≤ 0x0D) || (0x1C ≤ n && n ≤ 0x20) || n == 0x85 || n == 0xA0 || n == 0x1680 ||
    (0x2000 ≤ n && n ≤ 0x200A) || n == 0x2028 || n == 0x2029 || n == 0x202F || n == 0x205F ||
    n == 0x3000

/-- The text without the blanks at its start. -/
def trimStart (t : Text) : Text := t.dropWhile isBlank

/-- The text without the blanks at its end. -/
def trimEnd (t : Text) : Text := (t.reverse.dropWhile isBlank).reverse

/-- The text without the blanks at its two ends. -/
def trim (t : Text) : Text := trimStart (trimEnd t)

/-- What follows the first character that is not dropped is shorter than the text. -/
theorem length_lt_of_dropWhile {p : Char → Bool} {t after : Text} {c : Char}
    (h : t.dropWhile p = c :: after) : after.length < t.length := by
  have hsuffix := (List.dropWhile_suffix (l := t) p).length_le
  rw [h, List.length_cons] at hsuffix
  exact hsuffix

/-- The fields of a text: the pieces between the occurrences of a separator, one more than there
are separators. -/
def fields (separator : Char) : Text → List Text
  | [] => [[]]
  | c :: rest =>
    if c = separator then [] :: fields separator rest
    else match fields separator rest with
      | [] => [[c]]
      | field :: others => (c :: field) :: others

/-- The text padded with spaces at its end to a width. A longer text stays as it is. -/
def padEnd (width : Nat) (t : Text) : Text := t ++ List.replicate (width - t.length) ' '

/-- The lower case of the ASCII letters; every other character is its own. -/
def lowerAscii (t : Text) : Text := t.map Char.toLower

/-- Removes a given start from a text, where it has it. -/
def dropStart? : Text → Text → Option Text
  | [], t => some t
  | _ :: _, [] => none
  | c :: start, d :: t => if c = d then dropStart? start t else none

end Text

end CommandScript
