import CommandScript.Proofs.PhysicalLines
import CommandScript.Reader
import Mathlib.Data.List.TakeWhile
import Mathlib.Data.Nat.Notation

/-!
# What a reading gives, described

The reader goes through its lines one by one and carries the tokens collected so far. Here the same
reading is **described** without going through the lines: a command ends with the least line that is
a comment, or that does not continue and by which there is something to run (`commandEnd?`). The
reading consumes the lines up to that one and no more; its command is that line, for a comment, or
else the bodies of all of them. Without such a line all lines are consumed, and what they give, or
else the exit command, is the command.

`readOn_eq_describedOn` proves the two equal from any place and with any tokens collected. The
invariant of the reader is built into its second side: the tokens collected so far count as if the
next line had given them.
-/
namespace CommandScript

namespace Line

/-! ### The parts of a line -/

/-- Whether a line is a comment: its normal form opens with a number sign. -/
def isComment (raw : Text) : Bool := (normalize raw).head? == some '#'

/-- The tokens of a line in normal form. -/
def tokens (raw : Text) : List Text := Token.split (normalize raw)

/-- The **body** of a line: the tokens before the first one that is not plain. -/
def body (raw : Text) : List Text := (tokens raw).takeWhile isPlain

/-- The first token of a line that is not plain. -/
def stop? (raw : Text) : Option Text := (tokens raw).find? (!isPlain ·)

/-- Whether the command goes on in the next line: the first token that is not plain is a
continuation marker. -/
def continues (raw : Text) : Bool := (stop? raw).any Token.isMarker

/-- Whether tokens stand after the continuation marker of a line. -/
def isExcessive (raw : Text) : Bool :=
  continues raw && decide ((body raw).length + 1 < (tokens raw).length)

/-- How a line ends that is no comment. -/
def ending (raw : Text) : Ending := endingOf ((tokens raw).dropWhile isPlain)

theorem content_of_isComment {raw : Text} (h : isComment raw = true) :
    content raw = .comment (normalize raw) := by
  rw [content, contentOf, if_pos (by simpa [isComment] using h)]

theorem content_of_not_isComment {raw : Text} (h : isComment raw = false) :
    content raw = .body (body raw) (ending raw) := by
  rw [content, contentOf, if_neg (by simpa [isComment] using h)]
  rfl

theorem isMarker_of_not_isPlain {token : Text} (h : isPlain token = false)
    (hcomment : Token.opensComment token = false) : Token.isMarker token = true := by
  simpa [isPlain, hcomment] using h

theorem not_isMarker_of_opensComment {token : Text} (h : Token.opensComment token = true) :
    Token.isMarker token = false := by
  simp only [Token.opensComment, beq_iff_eq] at h
  simp [Token.isMarker, h]

/-- The first token that is not plain, with the tokens from it on. -/
theorem stop?_eq_head? (raw : Text) : stop? raw = ((tokens raw).dropWhile isPlain).head? :=
  List.find?_not_eq_head?_dropWhile ..

/-- The ending of a line is decided by its first token that is not plain. -/
theorem ending_of_dropWhile {raw token : Text} {rest : List Text}
    (h : (tokens raw).dropWhile isPlain = token :: rest) :
    ending raw = if Token.opensComment token then .complete
      else if rest.isEmpty then .continued else .continuedEarly := by
  rw [ending, h]
  rfl

theorem isPlain_eq_false_of_dropWhile {raw token : Text} {rest : List Text}
    (h : (tokens raw).dropWhile isPlain = token :: rest) : isPlain token = false := by
  have hnot := List.head?_dropWhile_not isPlain (tokens raw)
  rw [h] at hnot
  simpa using hnot

/-- A line goes on in the next one when its ending says so. -/
theorem continues_eq (raw : Text) : continues raw = decide (ending raw ≠ .complete) := by
  rw [continues, stop?_eq_head?]
  cases hstop : (tokens raw).dropWhile isPlain with
  | nil => simp [ending, hstop, endingOf]
  | cons token rest =>
    rw [ending_of_dropWhile hstop]
    cases hcomment : Token.opensComment token with
    | true => simp [not_isMarker_of_opensComment hcomment]
    | false =>
      have hmarker := isMarker_of_not_isPlain (isPlain_eq_false_of_dropWhile hstop) hcomment
      cases rest <;> simp [hmarker]

/-- Tokens stand after the marker of a line when its ending says so. -/
theorem isExcessive_eq (raw : Text) :
    isExcessive raw = decide (ending raw = .continuedEarly) := by
  have hlength : (tokens raw).length =
      (body raw).length + ((tokens raw).dropWhile isPlain).length := by
    rw [body, ← List.length_append, List.takeWhile_append_dropWhile]
  rw [isExcessive, continues_eq, hlength]
  cases hstop : (tokens raw).dropWhile isPlain with
  | nil => simp [ending, hstop, endingOf]
  | cons token rest =>
    rw [ending_of_dropWhile hstop]
    cases hcomment : Token.opensComment token <;> cases rest <;> simp

end Line

namespace Reader

/-! ### The description of a reading -/

/-- The bodies of lines, one after another. -/
def bodies (lines : List Text) : List Text := lines.flatMap Line.body

/-- Whether a command can end with the line of an index, when the given tokens have been collected
before the lines: the line is a comment, or it does not continue and by it there is something to
run. -/
def endsCommand (collected lines : List Text) (i : ℕ) : Bool :=
  lines[i]?.any fun raw ↦ Line.isComment raw ||
    (!Line.continues raw && !(collected ++ bodies (lines.take (i + 1))).isEmpty)

/-- **Where a command ends**: the index of the least line with which it can end. -/
def commandEnd? (collected lines : List Text) : Option ℕ :=
  (List.range lines.length).find? (endsCommand collected lines)

/-- The records of the lines with tokens after their continuation markers. The first of the lines
follows line number `line`. -/
def excessRecords (line : ℕ) (lines : List Text) : List Log.Record :=
  ((lines.zipIdx (line + 1)).filter fun numbered ↦ Line.isExcessive numbered.1).map
    fun numbered ↦ excessRecord numbered.2

/-- What reading on gives, **described** by the line with which the command ends. -/
def describedOn (line : ℕ) (collected lines : List Text) : Reading :=
  match commandEnd? collected lines with
  | none =>
    ⟨lastCommand (collected ++ bodies lines), excessRecords line lines,
      ⟨[], line + lines.length⟩⟩
  | some i =>
    let raw := lines.getD i []
    let before := lines.take i
    let after : Reader := ⟨lines.drop (i + 1), line + (i + 1)⟩
    if Line.isComment raw then
      ⟨Line.normalize raw,
        excessRecords line before ++
          if collected ++ bodies before = [] then [] else [dropRecord (line + (i + 1))],
        after⟩
    else ⟨commandOf (collected ++ bodies (lines.take (i + 1))), excessRecords line before, after⟩

/-- What reading one command gives, **described** by the line with which the command ends. -/
def described (r : Reader) : Reading := describedOn r.line [] r.unread

/-! ### Equations for a first line -/

@[simp] theorem bodies_nil : bodies [] = [] := rfl

@[simp] theorem bodies_cons (raw : Text) (rest : List Text) :
    bodies (raw :: rest) = Line.body raw ++ bodies rest := rfl

@[simp] theorem excessRecords_nil (line : ℕ) : excessRecords line [] = [] := rfl

theorem excessRecords_cons (line : ℕ) (raw : Text) (rest : List Text) :
    excessRecords line (raw :: rest) =
      endingRecords (line + 1) (Line.ending raw) ++ excessRecords (line + 1) rest := by
  rw [excessRecords, List.zipIdx_cons, List.filter_cons, Line.isExcessive_eq]
  cases Line.ending raw <;> rfl

theorem endsCommand_zero (collected : List Text) (raw : Text) (rest : List Text) :
    endsCommand collected (raw :: rest) 0 =
      (Line.isComment raw ||
        (!Line.continues raw && !(collected ++ Line.body raw).isEmpty)) := by
  simp [endsCommand]

/-- The body of a first line counts as if it had been collected before. -/
theorem endsCommand_succ (collected : List Text) (raw : Text) (rest : List Text) (i : ℕ) :
    endsCommand collected (raw :: rest) (i + 1) =
      endsCommand (collected ++ Line.body raw) rest i := by
  simp [endsCommand]

@[simp] theorem commandEnd?_nil (collected : List Text) : commandEnd? collected [] = none := rfl

/-- A command ends with the first line or else where it ends in the others. -/
theorem commandEnd?_cons (collected : List Text) (raw : Text) (rest : List Text) :
    commandEnd? collected (raw :: rest) =
      if endsCommand collected (raw :: rest) 0 then some 0
      else (commandEnd? (collected ++ Line.body raw) rest).map (· + 1) := by
  rw [commandEnd?, List.length_cons, List.range_succ_eq_map, List.find?_cons]
  cases endsCommand collected (raw :: rest) 0 with
  | true => rfl
  | false =>
    have hsucc : endsCommand collected (raw :: rest) ∘ Nat.succ =
        endsCommand (collected ++ Line.body raw) rest :=
      funext fun i ↦ endsCommand_succ collected raw rest i
    rw [List.find?_map, hsucc]
    rfl

/-- No line before the one with which a command ends could have ended it. -/
theorem commandEnd?_eq_some_iff {collected lines : List Text} {i : ℕ} :
    commandEnd? collected lines = some i ↔
      endsCommand collected lines i = true ∧ ∀ j < i, endsCommand collected lines j = false := by
  rw [commandEnd?, List.find?_range_eq_some]
  simp only [List.mem_range, Bool.not_eq_true']
  constructor
  · rintro ⟨hend, -, hbefore⟩
    exact ⟨hend, hbefore⟩
  · rintro ⟨hend, hbefore⟩
    refine ⟨hend, ?_, hbefore⟩
    by_contra hlt
    rw [endsCommand, List.getElem?_eq_none (by omega)] at hend
    exact absurd hend (by simp)

/-- A first line that does not end the command is read on from. -/
theorem describedOn_cons_of_not_endsCommand {collected : List Text} {raw : Text}
    {rest : List Text} (line : ℕ) (h : endsCommand collected (raw :: rest) 0 = false) :
    describedOn line collected (raw :: rest) =
      let next := describedOn (line + 1) (collected ++ Line.body raw) rest
      { next with
        records := endingRecords (line + 1) (Line.ending raw) ++ next.records } := by
  rw [describedOn, commandEnd?_cons, h, describedOn]
  cases commandEnd? (collected ++ Line.body raw) rest with
  | none => simp [excessRecords_cons, Nat.add_assoc, Nat.add_comm 1]
  | some i =>
    have hline : line + (i + 1 + 1) = line + 1 + (i + 1) := by omega
    simp only [Bool.false_eq_true, if_false, Option.map_some, List.getD_cons_succ,
      List.take_succ_cons, List.drop_succ_cons, bodies_cons, excessRecords_cons,
      List.append_assoc, hline]
    cases Line.isComment (rest.getD i []) <;> rfl

/-! ### Reading on is as described -/

/-- **Reading on is as described**, from any place and with any tokens collected. -/
theorem readOn_eq_describedOn (line : ℕ) (collected lines : List Text) :
    readOn line collected lines = describedOn line collected lines := by
  induction lines generalizing line collected with
  | nil => simp [readOn, describedOn]
  | cons raw rest ih =>
    cases hcomment : Line.isComment raw with
    | true =>
      have hend : endsCommand collected (raw :: rest) 0 = true := by
        rw [endsCommand_zero, hcomment, Bool.true_or]
      rw [readOn, Line.content_of_isComment hcomment, describedOn, commandEnd?_cons, hend]
      simp [hcomment]
    | false =>
      rw [readOn, Line.content_of_not_isComment hcomment]
      have hend : endsCommand collected (raw :: rest) 0 =
          decide (Line.ending raw = .complete ∧ collected ++ Line.body raw ≠ []) := by
        rw [endsCommand_zero, hcomment, Line.continues_eq, Bool.false_or]
        cases collected ++ Line.body raw <;> simp
      -- either the command ends with this line, or its body counts as collected before the next
      by_cases hnow : Line.ending raw = .complete ∧ collected ++ Line.body raw ≠ []
      · rw [describedOn, commandEnd?_cons, hend, decide_eq_true hnow]
        simp [hnow, hcomment]
      · rw [describedOn_cons_of_not_endsCommand line (by rw [hend, decide_eq_false hnow])]
        simp only [if_neg hnow, ih]

end Reader

end CommandScript
