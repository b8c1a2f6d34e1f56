import CommandScript.Proofs.WellFormed

/-!
# Reading commands again

The commands that have been read from a text make a text in their turn, one command on each line,
and reading that gives them back: each line ends its command, since all of its tokens are plain
again, and nothing is logged on the way. What carries the proof is that commands are well formed,
so that a command is the join of its tokens and they are what its line splits into.
-/
namespace CommandScript.Reader

/-- A command on a line of its own. -/
def ownLine (command : Text) : Text := command ++ ['\n']

/-- The text with each of some commands on a line of its own. -/
def assembled (commands : List Text) : Text := commands.flatMap ownLine

/-! ### One line -/

/-- A command that can be read again. -/
structure Readable (command : Text) : Prop extends WellFormed command where
  /-- It holds no tab. -/
  tab : '\t' ∉ command
  /-- It holds no line feed. -/
  newline : '\n' ∉ command

theorem readable_commandAt_ofText (t : Text) (n : ℕ) : Readable ((ofText t).commandAt n) :=
  ⟨wellFormed_command_read _, tab_not_mem_command_read _, newline_not_mem_commandAt_ofText t n⟩

theorem Readable.normalize_ownLine {command : Text} (h : Readable command) :
    Line.normalize (ownLine command) = command := by
  rw [ownLine, Line.normalize_concat_newline, Line.normalize_eq_self h.tight h.tab]

/-- A command on a line of its own is read as it is, without a record. -/
theorem Readable.readOn_ownLine {command : Text} (h : Readable command) (line : ℕ)
    (rest : List Text) :
    readOn line [] (ownLine command :: rest) = ⟨command, [], ⟨rest, line + 1⟩⟩ := by
  have hnormal := h.normalize_ownLine
  rcases h.parts with hcomment | ⟨hcomment, hplain, hjoin⟩
  · have hline : Line.isComment (ownLine command) = true := by
      simp [Line.isComment, hnormal, hcomment]
    rw [readOn, Line.content_of_isComment hline, hnormal]
    rfl
  · have hline : Line.isComment (ownLine command) = false := by
      simpa [Line.isComment, hnormal] using hcomment
    have htokens : Line.tokens (ownLine command) = Token.split command := by
      rw [Line.tokens, hnormal]
    -- no token opens a comment or continues, so the body is the whole line
    have hbody : Line.body (ownLine command) = Token.split command := by
      rw [Line.body, htokens, List.takeWhile_eq_self_iff.2 hplain]
    have hending : Line.ending (ownLine command) = .complete := by
      rw [Line.ending, htokens, List.dropWhile_eq_nil_iff.2 hplain]
      rfl
    have hne : Token.split command ≠ [] := by
      intro hnil
      rw [hnil] at hjoin
      exact h.ne_nil hjoin.symm
    rw [readOn, Line.content_of_not_isComment hline, hbody, hending]
    simp only [List.nil_append, hne, ne_eq, not_false_eq_true, and_self, if_true]
    rw [commandOf, hjoin, h.tight.trim_eq]

/-! ### All lines -/

/-- A reading of commands on lines of their own gives the first of them, or the exit command when
there is none. -/
theorem read_ownLines {commands : List Text} (h : ∀ command ∈ commands, Readable command)
    (line : ℕ) :
    (⟨commands.map ownLine, line⟩ : Reader).read =
      ⟨commands.headD exitCommand, [],
        ⟨commands.tail.map ownLine, line + min 1 commands.length⟩⟩ := by
  cases commands with
  | nil => rfl
  | cons command commands =>
    rw [List.map_cons, read, (h command (by simp)).readOn_ownLine]
    simp

/-- After some readings of assembled commands the others are left. -/
theorem after_assembled {commands : List Text} (h : ∀ command ∈ commands, Readable command)
    (n : ℕ) :
    (ofText (assembled commands)).after n =
      ⟨(commands.drop n).map ownLine, min n commands.length⟩ := by
  induction n with
  | zero =>
    have hlines := Text.physicalLines_flatMap_newline fun c hc ↦ (h c hc).newline
    rw [after_zero, List.drop_zero, Nat.zero_min]
    exact congrArg (fun lines ↦ (⟨lines, 0⟩ : Reader)) hlines
  | succ n ih =>
    have hline : min n commands.length + min 1 (commands.drop n).length =
        min (n + 1) commands.length := by
      rw [List.length_drop]
      omega
    rw [after_succ, ih, read_ownLines fun c hc ↦ h c (List.mem_of_mem_drop hc), List.tail_drop,
      hline]

/-- **Assembled commands are read as they are.** Reading the first commands of a text again, each
on a line of its own, gives them in their order, one for each line and without a record, and then
the exit command for ever. -/
theorem read_after_assembled_commands (t : Text) (n k : ℕ) :
    let reading := ((ofText (assembled ((ofText t).commands n))).after k).read
    reading.command = (if k < n then (ofText t).commandAt k else exitCommand) ∧
      reading.records = [] ∧ reading.reader.line = min (k + 1) n := by
  have hreadable : ∀ command ∈ (ofText t).commands n, Readable command := by
    intro command hcommand
    obtain ⟨j, -, rfl⟩ := mem_commands.1 hcommand
    exact readable_commandAt_ofText t j
  have hlength : ((ofText t).commands n).length = n := by simp [commands]
  have hcommand : (((ofText t).commands n).drop k).headD exitCommand =
      if k < n then (ofText t).commandAt k else exitCommand := by
    rw [List.headD_eq_head?_getD, List.head?_drop, commands]
    by_cases hk : k < n <;> simp [hk]
  intro reading
  have hline : min k n + min 1 (n - k) = min (k + 1) n := by omega
  have hreading : reading = ⟨if k < n then (ofText t).commandAt k else exitCommand, [],
      ⟨(((ofText t).commands n).drop k).tail.map ownLine, min (k + 1) n⟩⟩ := by
    rw [← hcommand, ← hline]
    show ((ofText (assembled ((ofText t).commands n))).after k).read = _
    rw [after_assembled hreadable, read_ownLines fun c hc ↦ hreadable c (List.mem_of_mem_drop hc),
      List.length_drop, hlength]
  rw [hreading]
  exact ⟨rfl, rfl, rfl⟩

end CommandScript.Reader
