import CommandScript.Shell.Expansion

/-!
# Traces of commands

A shell can show every command before it runs: a prompt, and then the words as they would have to be
given again. The first sign of the prompt stands once more for every source around the command.
-/
namespace CommandScript.Shell

/-- Whether a trace puts a word between quotes. -/
def tracedInQuotes (t : Text) : Bool :=
  t.any (shellSigns.contains ·) || t.head? = some '#' || t.head? = some '~' ||
    (t.zip (t.drop 1)).any fun (c, d) ↦ d = '~' && (c = '=' || c = ':')

/-- A word as a trace shows it. -/
def tracedWord (standard : Bool) (t : Text) : Text :=
  if standard then t
  else if t.isEmpty ∨ tracedInQuotes t then singleQuoted t
  else if needsEscapes t then dollarQuoted t
  else t

/-- Words as a trace shows them. -/
def tracedWords (standard : Bool) (words : List Text) : Text :=
  [' '].intercalate (words.map (tracedWord standard))

/-- An assignment as a trace shows it: members of arrays stand as they are. -/
def tracedAssignment (standard isMembers : Bool) (t : Text) : Text :=
  if isMembers then t
  else
    let name := t.takeWhile (· != '=')
    let value := t.drop (name.length + 1)
    name ++ '=' :: if value.isEmpty then [] else tracedWord standard value

section Traces

variable (run : Runner)

/-- The prompt of a trace, where there is to be one. -/
def tracePrompt : Act Text := do
  let s ← get
  if !s.isOn .xtrace then return []
  let t := (s.value? "PS4".toList).getD "+ ".toList
  let shown ← if t.any fun c ↦ c = '$' ∨ c = '\x60' then do
      let rules := s.rules
      set { s with switches := s.switches.filter (· != Switch.xtrace) }
      let found ← attempt (expandToText run t
        (lexQuoted rules (Parser.skipKnown rules) true t))
      modify fun after ↦ { after with
        switches := s.switches, status := s.status, statuses := s.statuses }
      resume found
    else pure t
  let first := (wide shown).take 1
  return if s.isStandard then shown
    else narrow (List.replicate s.nesting first).flatten ++ shown

/-- Shows something in a trace after a prompt. -/
def traceAfter (prompt t : Text) : Act Unit := do
  if (← get).isOn .xtrace then tell (prompt ++ t ++ ['\n'])

/-- Shows a command in a trace. -/
def trace (t : Text) : Act Unit := do traceAfter (← tracePrompt run) t

end Traces

end CommandScript.Shell
