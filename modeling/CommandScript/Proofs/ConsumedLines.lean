import CommandScript.Proofs.WellFormed

/-!
# What a reading makes of the lines that it consumes

A reading **consumes** the lines between the place of its reader and the place where it leaves it.
What it gives follows from these lines alone (`Harvest`): only the last of them can be a comment,
and then the reading gives that comment; otherwise it gives the bodies of the lines as one command,
or the exit command when there is nothing in them.

`exists_harvest_readOn` proves this with any tokens collected before. What it needs of them is what
every reading keeps to: they have been gathered, and are complete as long as the command goes on.
-/
namespace CommandScript.Reader

/-- What the lines that a reading consumes **give**, of which the first follows line number `line`,
when tokens have been collected before them. -/
inductive Harvest (line : ℕ) (collected : List Text) : List Text → Reading → Prop
  /-- A last line that is a comment, which drops what has been collected. -/
  | comment {before : List Text} {raw : Text} {reader : Reader}
      (hbefore : ∀ other ∈ before, Line.isComment other = false)
      (hraw : Line.isComment raw = true) :
      Harvest line collected (before ++ [raw])
        ⟨Line.normalize raw,
          excessRecords line before ++
            if collected ++ bodies before = [] then [] else [dropRecord (line + before.length + 1)],
          reader⟩
  /-- Tokens, which are the command. -/
  | command {lines : List Text} {reader : Reader}
      (hlines : ∀ raw ∈ lines, Line.isComment raw = false)
      (hne : collected ++ bodies lines ≠ []) :
      Harvest line collected lines
        ⟨commandOf (collected ++ bodies lines), excessRecords line lines, reader⟩
  /-- No token up to the end of the script. -/
  | nothing {lines : List Text} {last : ℕ}
      (hlines : ∀ raw ∈ lines, Line.isComment raw = false)
      (hnil : collected ++ bodies lines = []) :
      Harvest line collected lines ⟨exitCommand, excessRecords line lines, ⟨[], last⟩⟩

/-- One line that is no comment before the others: its body counts as collected. -/
theorem Harvest.cons {line : ℕ} {collected lines : List Text} {raw : Text} {reading : Reading}
    (hraw : Line.isComment raw = false)
    (h : Harvest (line + 1) (collected ++ Line.body raw) lines reading) :
    Harvest line collected (raw :: lines)
      { reading with
        records := endingRecords (line + 1) (Line.ending raw) ++ reading.records } := by
  have hall {others : List Text} (hothers : ∀ other ∈ others, Line.isComment other = false) :
      ∀ other ∈ raw :: others, Line.isComment other = false :=
    List.forall_mem_cons.2 ⟨hraw, hothers⟩
  cases h with
  | @comment before comment reader hbefore hcomment =>
    have hnumber : line + 1 + before.length + 1 = line + (raw :: before).length + 1 := by
      rw [List.length_cons]
      omega
    have hharvest := @Harvest.comment line collected _ _ reader (hall hbefore) hcomment
    rw [excessRecords_cons, bodies_cons, ← List.append_assoc collected, List.append_assoc,
      ← hnumber] at hharvest
    exact hharvest
  | @command lines reader hlines hne =>
    rw [List.append_assoc, ← bodies_cons] at hne
    have hharvest := @Harvest.command line collected _ reader (hall hlines) hne
    rw [excessRecords_cons, bodies_cons, ← List.append_assoc] at hharvest
    exact hharvest
  | @nothing lines last hlines hnil =>
    rw [List.append_assoc, ← bodies_cons] at hnil
    have hharvest := @Harvest.nothing line collected _ last (hall hlines) hnil
    rwa [excessRecords_cons] at hharvest

/-- **Reading on gives what the consumed lines give**, and the tokens of these lines are gathered
unless the last of them is a comment. By induction on the lines: a line that does not end the
reading continues, so that all tokens up to it are complete, or nothing has been collected by it. -/
theorem exists_harvest_readOn (line : ℕ) {collected : List Text} (lines : List Text)
    (h : Gathered collected) (hcomplete : ∀ token ∈ collected, Token.IsComplete token) :
    ∃ consumed, lines = consumed ++ (readOn line collected lines).reader.unread ∧
      (readOn line collected lines).reader.line = line + consumed.length ∧
      Harvest line collected consumed (readOn line collected lines) ∧
      Gathered (collected ++ bodies (consumed.filter (!Line.isComment ·))) := by
  induction lines generalizing line collected with
  | nil =>
    refine ⟨[], rfl, rfl, ?_, by simpa using h⟩
    rw [readOn, lastCommand]
    rcases eq_or_ne collected [] with rfl | hne
    · exact .nothing (by simp) rfl
    · rw [if_neg (h.wellFormed_commandOf hne).ne_nil]
      have hharvest := @Harvest.command line collected [] ⟨[], line⟩ (by simp) (by simpa using hne)
      rwa [bodies_nil, List.append_nil] at hharvest
  | cons raw rest ih =>
    rw [readOn]
    cases hcomment : Line.isComment raw with
    | true =>
      rw [Line.content_of_isComment hcomment]
      refine ⟨[raw], rfl, rfl, ?_, by simpa [hcomment] using h⟩
      have hharvest :=
        @Harvest.comment line collected [] raw ⟨rest, line + 1⟩ (by simp) hcomment
      simpa using hharvest
    | false =>
      rw [Line.content_of_not_isComment hcomment]
      have hgathered := h.append_body hcomplete raw
      dsimp only
      split
      · next hend =>
        refine ⟨[raw], rfl, rfl, ?_, by simpa [hcomment] using hgathered⟩
        have hharvest := @Harvest.command line collected [raw] ⟨rest, line + 1⟩
          (by simpa using hcomment) (by simpa using hend.2)
        simpa [excessRecords_cons, hend.1, endingRecords] using hharvest
      · next hon =>
        have hnext := isComplete_of_goesOn hcomplete hon
        obtain ⟨consumed, hlines, hline, hharvest, hall⟩ := ih (line + 1) hgathered hnext
        refine ⟨raw :: consumed, congrArg (raw :: ·) hlines, ?_, hharvest.cons hcomment, ?_⟩
        · rw [hline, List.length_cons]
          omega
        · rwa [List.filter_cons_of_pos (by simp [hcomment]), bodies_cons, ← List.append_assoc]

/-! ### The lines of one reading -/

/-- The lines that the next reading **consumes**. -/
def consumed (r : Reader) : List Text := r.unread.take (r.read.reader.line - r.line)

/-- **A reading gives what the lines give that it consumes.** They are the first of those that are
left, and the line number goes forward by their count. -/
theorem harvest_read (r : Reader) :
    r.unread = r.consumed ++ r.read.reader.unread ∧
      r.read.reader.line = r.line + r.consumed.length ∧
      Harvest r.line [] r.consumed r.read ∧
      Gathered (bodies (r.consumed.filter (!Line.isComment ·))) := by
  obtain ⟨lines, hunread, hline, hharvest, hgathered⟩ :=
    exists_harvest_readOn r.line r.unread gathered_nil (by simp)
  have hconsumed : r.consumed = lines := by
    have hcount : r.read.reader.line - r.line = lines.length := by
      rw [show r.read.reader.line = r.line + lines.length from hline, Nat.add_sub_cancel_left]
    rw [consumed, hcount, hunread, List.take_left]
  rw [hconsumed]
  exact ⟨hunread, hline, hharvest, hgathered⟩

end CommandScript.Reader
