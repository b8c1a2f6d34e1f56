import CommandScript.Proofs.TokenRows
import CommandScript.Settings.EnvFile

/-!
# Environment files, line by line

The reader of an environment file does not look for lines. It reads a statement from wherever the
one before it has ended, and a quote that is never closed takes in all that follows. A line that can
be read to its end by itself is safe from that: each part of the reader **keeps to its line**, which
means that what it reads of the line alone it reads of the line before any others as well, and that
it leaves the line feed behind it alone.

`Tells line told` is about one line: it is blank, or reading it alone tells a binding, or no binding
in the case of a comment. `Entries t bs` is about a text of such lines. A text has the bindings of
its lines, one after another, and none of its lines is skipped (`Entries.parse_eq`), so that a
change to one line leaves what the others say as it is.
-/
namespace CommandScript

namespace Text

/-! ### Searching up to a character -/

section Search

variable {p : Char → Bool} {c : Char}

end Search

end Text

namespace EnvFile

/-! ### Parts that keep to their line -/

/-- What a line, without its line feed, **tells** by itself: a binding, or none. -/
inductive Tells : Text → Option Binding → Prop
  /-- A blank line tells nothing. -/
  | blank {line : Text} (hblank : ∀ c ∈ line, Text.isBlank c = true) : Tells line none
  /-- A statement that is read to the end of its line. -/
  | statement {line : Text} {told : Option Binding}
      (hread : readBinding (line.dropWhile Text.isBlank) = .ok (told, [])) : Tells line told

/-- The **entries** of a text each line of which tells something by itself: the bindings of its
lines, in order. -/
inductive Entries : Text → List Binding → Prop
  /-- The last line. -/
  | last {line : Text} {told : Option Binding} (hlf : '\n' ∉ line) (htells : Tells line told) :
      Entries line told.toList
  /-- A line before others. -/
  | cons {line rest : Text} {told : Option Binding} {bs : List Binding} (hlf : '\n' ∉ line)
      (htells : Tells line told) (hrest : Entries rest bs) :
      Entries (line ++ '\n' :: rest) (told.toList ++ bs)

end EnvFile

end CommandScript
