import CommandScript.Proofs.Readings
import CommandScript.Proofs.TokenRows

/-!
# Commands are well formed

Whatever the lines are, the command that a reading gives is **well formed**: it is tight and not
empty, and it opens a comment, or else it is the join of its own tokens, all of them plain. The
reader keeps to this by two facts about the tokens collected so far: they have been **gathered**
from plain tokens, the first of which starts with no blank, and as long as the command goes on, all
of them are complete, because a line that continues has a marker behind its body. So a quote that is
never closed is the last token of its command, and the command splits again as its lines did.

`not_mem_command_read` says of any one character but those of the separator and of the exit command
that no command holds it unless the normal form of a line does.
-/
namespace CommandScript.Reader

/-! ### Tokens gathered for a command -/

theorem isPlain_congr {t u : Text} (h : t.head? = u.head?) : Line.isPlain t = Line.isPlain u := by
  rw [Line.isPlain, Token.opensComment, Token.isMarker, h]
  rfl

/-- Tokens that are **gathered** for a command: a row of plain tokens, the first of which starts
with no blank. -/
structure Gathered (tokens : List Text) : Prop where
  /-- They are a row. -/
  row : Token.Row tokens
  /-- Each is plain. -/
  plain : ∀ token ∈ tokens, Line.isPlain token = true
  /-- The first starts, and with no blank. -/
  start : ∀ token ∈ tokens.head?, ∃ c, token.head? = some c ∧ Text.isBlank c = false

theorem gathered_nil : Gathered [] := ⟨.nil, by simp, by simp⟩

/-- The first token of a line in normal form starts with no blank. -/
theorem exists_head?_of_mem_tokens {raw token : Text} (h : token ∈ (Line.tokens raw).head?) :
    ∃ c, token.head? = some c ∧ Text.isBlank c = false := by
  have htight := Line.tight_normalize raw
  cases hline : (Line.normalize raw).head? with
  | none =>
    rw [Line.tokens, List.head?_eq_none_iff.1 hline, Token.split_nil] at h
    simp at h
  | some c =>
    have hc : Text.isBlank c = false := htight.head c hline
    have hsep : c ≠ Token.separator := by
      rintro rfl
      rw [Token.isBlank_separator] at hc
      exact absurd hc (by simp)
    obtain ⟨first, hfirst, hhead⟩ := Token.exists_head?_split hline hsep
    rw [Line.tokens, hfirst, Option.mem_some_iff] at h
    exact ⟨c, h ▸ hhead, hc⟩

/-- The tokens of a line, its body first, are a row. -/
theorem row_body_append (raw : Text) :
    Token.Row (Line.body raw ++ (Line.tokens raw).dropWhile Line.isPlain) := by
  rw [Line.body, List.takeWhile_append_dropWhile]
  exact Token.row_split _

theorem gathered_body (raw : Text) : Gathered (Line.body raw) := by
  refine ⟨(row_body_append raw).of_append_left, fun token htoken ↦ List.mem_takeWhile_imp htoken,
    fun token htoken ↦ ?_⟩
  suffices hmem : token ∈ (Line.tokens raw).head? from exists_head?_of_mem_tokens hmem
  rw [Option.mem_def]
  obtain ⟨others, hothers⟩ := List.takeWhile_prefix Line.isPlain (l := Line.tokens raw)
  rw [← hothers, List.head?_append, show (List.takeWhile _ _).head? = some token from htoken,
    Option.some_or]

/-- The body of a line joins complete tokens. -/
theorem Gathered.append_body {tokens : List Text} (h : Gathered tokens)
    (hcomplete : ∀ token ∈ tokens, Token.IsComplete token) (raw : Text) :
    Gathered (tokens ++ Line.body raw) := by
  have hbody := gathered_body raw
  refine ⟨.append hcomplete hbody.row, fun token htoken ↦ ?_, fun token htoken ↦ ?_⟩
  · rcases List.mem_append.1 htoken with htoken | htoken
    · exact h.plain token htoken
    · exact hbody.plain token htoken
  · cases tokens with
    | nil => exact hbody.start token htoken
    | cons first others => exact h.start token htoken

/-- The body of a line that continues is made of complete tokens: its marker comes after them. -/
theorem isComplete_of_mem_body {raw token : Text} (h : Line.ending raw ≠ .complete)
    (htoken : token ∈ Line.body raw) : Token.IsComplete token := by
  refine (row_body_append raw).isComplete_of_append (fun hnil ↦ h ?_) token htoken
  rw [Line.ending, hnil]
  rfl

/-- Where a line does not end the command, the tokens up to it are complete: the line continues,
unless nothing has been collected by it. -/
theorem isComplete_of_goesOn {collected : List Text} {raw : Text}
    (hcomplete : ∀ token ∈ collected, Token.IsComplete token)
    (hon : ¬(Line.ending raw = .complete ∧ collected ++ Line.body raw ≠ [])) :
    ∀ token ∈ collected ++ Line.body raw, Token.IsComplete token := by
  intro token htoken
  rcases List.mem_append.1 htoken with hmem | hmem
  · exact hcomplete token hmem
  · refine isComplete_of_mem_body (fun hending ↦ hon ⟨hending, ?_⟩) hmem
    exact List.ne_nil_of_mem htoken

/-! ### Well-formed commands -/

/-- A **well-formed** command. -/
structure WellFormed (command : Text) : Prop where
  /-- No blank stands at its ends. -/
  tight : Text.Tight command
  /-- It is not empty. -/
  ne_nil : command ≠ []
  /-- It opens a comment, or it is the join of its tokens, all of them plain. -/
  parts : command.head? = some '#' ∨ command.head? ≠ some '#' ∧
    (∀ token ∈ Token.split command, Line.isPlain token = true) ∧
      Token.join (Token.split command) = command

/-- The command of gathered tokens starts as the first of them does, which opens no comment. -/
theorem Gathered.exists_head?_commandOf {tokens : List Text} (h : Gathered tokens)
    (hne : tokens ≠ []) : ∃ c, (commandOf tokens).head? = some c ∧
      commandOf tokens = Text.trimEnd (Token.join tokens) ∧ c ≠ '#' := by
  obtain ⟨first, others, rfl⟩ := List.exists_cons_of_ne_nil hne
  obtain ⟨c, hfirst, hc⟩ := h.start first rfl
  have hhead := Token.head?_join_cons others hfirst
  have hcommand : commandOf (first :: others) = Text.trimEnd (Token.join (first :: others)) := by
    rw [commandOf, Text.trim_eq_trimEnd (by rintro d hd; simp_all)]
  refine ⟨c, by rw [hcommand, Text.head?_trimEnd hhead hc], hcommand, ?_⟩
  rintro rfl
  have hplain := h.plain first (by simp)
  simp [Line.isPlain, Token.opensComment, hfirst] at hplain

/-- **Gathered tokens make a well-formed command.** -/
theorem Gathered.wellFormed_commandOf {tokens : List Text} (h : Gathered tokens)
    (hne : tokens ≠ []) : WellFormed (commandOf tokens) := by
  obtain ⟨c, hstart, htrim, hcomment⟩ := h.exists_head?_commandOf hne
  -- only the end is trimmed, and what it leaves is a joined row again
  obtain ⟨kept, hrow, hjoin, hheads⟩ := h.row.exists_trimEnd_join
  have hcommand : commandOf tokens = Token.join kept := htrim.trans hjoin
  have hplain : ∀ token ∈ kept, Line.isPlain token = true := by
    intro token htoken
    obtain ⟨t, ht, hhead⟩ := hheads token htoken
    rw [isPlain_congr hhead]
    exact h.plain t ht
  refine ⟨Text.tight_trim _, ?_, .inr ⟨?_, ?_, ?_⟩⟩
  · rintro hnil
    simp [hnil] at hstart
  · rw [hstart]
    simpa using hcomment
  · rwa [hcommand, hrow.split_join]
  · rw [hcommand, hrow.split_join]

theorem gathered_exitCommand : Gathered [exitCommand] := by
  refine ⟨.cons (.word rfl (by decide)) .nil, by decide, ?_⟩
  rintro token ⟨⟩
  exact ⟨'e', rfl, rfl⟩

theorem wellFormed_of_isComment {raw : Text} (h : Line.isComment raw = true) :
    WellFormed (Line.normalize raw) := by
  have hhead : (Line.normalize raw).head? = some '#' := by simpa [Line.isComment] using h
  refine ⟨Line.tight_normalize raw, ?_, .inl hhead⟩
  rintro hnil
  simp [hnil] at hhead

/-- Reading on gives a comment line in its normal form, or gathered tokens. The invariant: what has
been collected is gathered and complete. -/
theorem command_readOn_cases (line : ℕ) {collected : List Text} (lines : List Text)
    (h : Gathered collected) (hcomplete : ∀ token ∈ collected, Token.IsComplete token) :
    (∃ raw ∈ lines, Line.isComment raw = true ∧
      (readOn line collected lines).command = Line.normalize raw) ∨
      ∃ tokens, Gathered tokens ∧ tokens ≠ [] ∧
        (readOn line collected lines).command = commandOf tokens := by
  induction lines generalizing line collected with
  | nil =>
    rw [readOn, lastCommand]
    split
    · exact .inr ⟨[exitCommand], gathered_exitCommand, by simp, rfl⟩
    · next hne =>
      refine .inr ⟨collected, h, ?_, rfl⟩
      rintro rfl
      exact hne rfl
  | cons raw rest ih =>
    rw [readOn]
    cases hcomment : Line.isComment raw with
    | true =>
      rw [Line.content_of_isComment hcomment]
      exact .inl ⟨raw, by simp, hcomment, rfl⟩
    | false =>
      rw [Line.content_of_not_isComment hcomment]
      dsimp only
      split
      · next hend => exact .inr ⟨_, h.append_body hcomplete raw, hend.2, rfl⟩
      · next hon =>
        have hnext := isComplete_of_goesOn hcomplete hon
        refine (ih (line + 1) (h.append_body hcomplete raw) hnext).imp_left ?_
        rintro ⟨comment, hmem, hcomment⟩
        exact ⟨comment, List.mem_cons_of_mem raw hmem, hcomment⟩

/-- Every command is a comment line in its normal form, or made of gathered tokens. -/
theorem command_read_cases (r : Reader) :
    (∃ raw ∈ r.unread, Line.isComment raw = true ∧ r.read.command = Line.normalize raw) ∨
      ∃ tokens, Gathered tokens ∧ tokens ≠ [] ∧ r.read.command = commandOf tokens :=
  command_readOn_cases r.line r.unread gathered_nil (by simp)

/-- **Every command is well formed.** -/
theorem wellFormed_command_read (r : Reader) : WellFormed r.read.command := by
  rcases r.command_read_cases with ⟨raw, -, hcomment, hcommand⟩ | ⟨tokens, h, hne, hcommand⟩
  · rw [hcommand]
    exact wellFormed_of_isComment hcomment
  · rw [hcommand]
    exact h.wellFormed_commandOf hne

/-- A command that opens a comment is a comment line in its normal form. -/
theorem exists_isComment_of_head?_read {r : Reader} (h : r.read.command.head? = some '#') :
    ∃ raw ∈ r.unread, Line.isComment raw = true ∧ r.read.command = Line.normalize raw := by
  refine r.command_read_cases.resolve_right ?_
  rintro ⟨tokens, hgathered, hne, hcommand⟩
  obtain ⟨c, hc, -, hopens⟩ := hgathered.exists_head?_commandOf hne
  rw [hcommand, hc] at h
  exact hopens (Option.some.inj h)

/-! ### Characters that no command holds -/

theorem not_mem_of_mem_body {raw token : Text} {c : Char} (hraw : c ∉ Line.normalize raw)
    (htoken : token ∈ Line.body raw) : c ∉ token := fun hc ↦
  hraw (Token.mem_of_mem_split ((List.takeWhile_prefix _).subset htoken) hc)

theorem not_mem_commandOf {tokens : List Text} {c : Char} (hsep : c ≠ Token.separator)
    (h : ∀ token ∈ tokens, c ∉ token) : c ∉ commandOf tokens := by
  intro hc
  rcases Token.eq_or_exists_mem_of_mem_join (Text.mem_of_mem_trim hc) with heq | ⟨t, ht, hmem⟩
  · exact hsep heq
  · exact h t ht hmem

theorem not_mem_command_readOn {c : Char} (hsep : c ≠ Token.separator) (hexit : c ∉ exitCommand)
    (line : ℕ) {collected lines : List Text} (hcollected : ∀ token ∈ collected, c ∉ token)
    (hlines : ∀ raw ∈ lines, c ∉ Line.normalize raw) :
    c ∉ (readOn line collected lines).command := by
  induction lines generalizing line collected with
  | nil =>
    rw [readOn, lastCommand]
    split
    · exact hexit
    · exact not_mem_commandOf hsep hcollected
  | cons raw rest ih =>
    have hraw := hlines raw (by simp)
    have happend : ∀ token ∈ collected ++ Line.body raw, c ∉ token := by
      intro token htoken
      rcases List.mem_append.1 htoken with htoken | htoken
      · exact hcollected token htoken
      · exact not_mem_of_mem_body hraw htoken
    rw [readOn]
    cases hcomment : Line.isComment raw with
    | true =>
      rw [Line.content_of_isComment hcomment]
      exact hraw
    | false =>
      rw [Line.content_of_not_isComment hcomment]
      dsimp only
      split
      · exact not_mem_commandOf hsep happend
      · exact ih (line + 1) happend fun r hr ↦ hlines r (List.mem_cons_of_mem _ hr)

/-- **No command holds a character that no line holds in its normal form**, the separator and those
of the exit command apart. -/
theorem not_mem_command_read {c : Char} (hsep : c ≠ Token.separator) (hexit : c ∉ exitCommand)
    {r : Reader} (hlines : ∀ raw ∈ r.unread, c ∉ Line.normalize raw) : c ∉ r.read.command :=
  not_mem_command_readOn hsep hexit r.line (by simp) hlines

/-- No command holds a tab. -/
theorem tab_not_mem_command_read (r : Reader) : '\t' ∉ r.read.command :=
  not_mem_command_read (by decide) (by decide) fun raw _ ↦ Line.tab_not_mem_normalize raw

/-- No command of a text holds a line feed. -/
theorem newline_not_mem_commandAt_ofText (t : Text) (n : ℕ) : '\n' ∉ (ofText t).commandAt n := by
  obtain ⟨k, -, hafter⟩ := exists_after_ofText t n
  refine not_mem_command_read (by decide) (by decide) fun raw hraw ↦ ?_
  rw [hafter] at hraw
  exact Line.newline_not_mem_normalize (List.mem_of_mem_drop hraw)

end CommandScript.Reader
