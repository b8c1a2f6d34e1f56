import CommandScript.Text.Quoted

/-!
# Emoji codes

A console shows an **emoji code**, a name between two colons such as `:smile:`, as the picture of
that name. The name holds no blank and may carry a wish for the text form or for the picture form
of the character. A code with a name that is not known stays as it is, and its closing colon opens
no other code.

Which names are known is a matter of the console: its `Pictures` are a parameter of all that is
printed.
-/
namespace CommandScript.Console

/-- The **pictures** that a console knows. -/
structure Pictures where
  /-- The picture of a name, given as it is written in a code. -/
  picture? : Text → Option Text
  /-- No picture holds a colon, as a code does. -/
  colon_not_mem : ∀ {name picture : Text}, picture? name = some picture → ':' ∉ picture

/-- The ends of a name that ask for a form, with the character that selects the form. -/
def forms : List (Text × Char) := [("-emoji".toList, '\uFE0F'), ("-text".toList, '\uFE0E')]

/-- The lower case of a character as far as names of ASCII letters can tell: those letters, and the
kelvin sign, which is another capital K. -/
def lowerName (c : Char) : Char := if c = '\u212A' then 'k' else c.toLower

/-- The pictures of a table by name. Names are looked up in lower case. -/
def Pictures.ofTable (table : List (Text × Text)) (h : ∀ entry ∈ table, ':' ∉ entry.2) :
    Pictures where
  picture? name := table.lookup (name.map lowerName)
  colon_not_mem {name picture} hpicture := by
    obtain ⟨before, after, hsplit, -⟩ := List.lookup_eq_some_iff.1 hpicture
    have hmem : (name.map lowerName, picture) ∈ table := by
      rw [hsplit]
      simp
    exact h _ hmem

/-- A text without a given end, where it has it. -/
def dropEnd? (ending t : Text) : Option Text :=
  (Text.dropStart? ending.reverse t.reverse).map List.reverse

/-- What stands between the colons, as the name of a picture and the selector of a form. -/
def splitForm (inner : Text) : Text × Text :=
  match forms.findSome? fun form ↦ (dropEnd? form.1 inner).map fun name ↦ (name, [form.2]) with
  | some split => split
  | none => (inner, [])

/-- What a code shows, given what stands between its colons. -/
def showCode (pictures : Pictures) (inner : Text) : Text :=
  let (name, form) := splitForm inner
  match pictures.picture? name with
  | some picture => picture ++ form
  | none => ':' :: inner ++ [':']

/-- Whether a character can stand within a code. -/
def withinCode (c : Char) : Bool := c != ':' && !Text.isBlank c

/-- The text with every emoji code shown, the leftmost first. -/
def showEmoji (pictures : Pictures) : Text → Text
  | [] => []
  | c :: rest =>
    if c = ':' then
      match h : rest.dropWhile withinCode with
      | ':' :: after =>
        have : after.length < rest.length := Text.length_lt_of_dropWhile h
        showCode pictures (rest.takeWhile withinCode) ++ showEmoji pictures after
      | _ => c :: showEmoji pictures rest
    else c :: showEmoji pictures rest
termination_by t => t.length

end CommandScript.Console
