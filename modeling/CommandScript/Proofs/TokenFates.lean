import CommandScript.Proofs.ConsumedLines
import CommandScript.Proofs.Joining

/-!
# What becomes of a token

A reading **meets** the plain tokens of the lines that it consumes, comments apart, each of them
where it stands: on a line with a number, behind other tokens of that line. It keeps those that only
plain tokens precede there, and no others (`kept_eq_bodies`).

No token is lost without a trace (`tokens_accounted_for`). One that is not kept stands behind a
token that opens a comment, which is what a comment is for, or behind a continuation marker, about
which there is a record. What is kept becomes the command, token for token and up to blanks at its
end, or a comment line drops it, about which there is a record as well. Beside these records a
reading makes none.
-/
namespace CommandScript

namespace Line

/-- Tokens stand after the continuation marker of a line when the first of its tokens that is not
plain is a marker, and not the last. -/
theorem isExcessive_iff (raw : Text) :
    isExcessive raw = true ↔ ∃ before marker after, tokens raw = before ++ marker :: after ∧
      (∀ token ∈ before, isPlain token = true) ∧ Token.isMarker marker = true ∧ after ≠ [] := by
  constructor
  · intro h
    rw [isExcessive, continues, Bool.and_eq_true, decide_eq_true_eq] at h
    obtain ⟨hcontinues, hlength⟩ := h
    cases hstop : stop? raw with
    | none => simp [hstop] at hcontinues
    | some marker =>
      rw [stop?_eq_head?] at hstop
      obtain ⟨after, hafter⟩ := List.head?_eq_some_iff.1 hstop
      have htokens : tokens raw = body raw ++ marker :: after := by
        rw [body, ← hafter, List.takeWhile_append_dropWhile]
      refine ⟨body raw, marker, after, htokens, fun token ↦ List.mem_takeWhile_imp, ?_, ?_⟩
      · rw [stop?_eq_head?, hstop] at hcontinues
        simpa using hcontinues
      · rintro rfl
        simp [htokens] at hlength
  · rintro ⟨before, marker, after, htokens, hplain, hmarker, hafter⟩
    have hnot : isPlain marker = false := by simp [isPlain, hmarker]
    have hbody : body raw = before := by
      rw [body, htokens, List.takeWhile_append_of_pos hplain,
        List.takeWhile_cons_of_neg (by simp [hnot]), List.append_nil]
    have hstop : stop? raw = some marker := by
      rw [stop?_eq_head?, htokens, List.dropWhile_append_of_pos hplain,
        List.dropWhile_cons_of_neg (by simp [hnot]), List.head?_cons]
    rw [isExcessive, continues, hstop, hbody, htokens, List.length_append, List.length_cons]
    have hpos := List.length_pos_iff.2 hafter
    simp [hmarker, hpos]

/-- A comment has no tokens after a continuation marker. -/
theorem isExcessive_of_isComment {raw : Text} (h : isComment raw = true) :
    isExcessive raw = false := by
  rw [isExcessive, continues_of_isComment h, Bool.false_and]

end Line

namespace Reader

/-! ### Tokens where they stand -/

/-- An **occurrence** of a token: where it stands. -/
structure Occurrence where
  /-- The number of its line. -/
  line : ℕ
  /-- The tokens before it on the line. -/
  before : List Text
  /-- The token. -/
  token : Text

namespace Occurrence

/-- Whether all tokens before it on its line are plain. -/
def isKept (o : Occurrence) : Bool := o.before.all Line.isPlain

/-- Whether it stands **behind** a token of one kind, with none of another kind before that. -/
def IsBehind (kind other : Text → Bool) (o : Occurrence) : Prop :=
  ∃ first stop later, o.before = first ++ stop :: later ∧ kind stop = true ∧
    ∀ token ∈ first, other token = false

end Occurrence

/-- The occurrences of the last tokens of a line, given its number and the tokens before them. -/
def occurrencesFrom (line : ℕ) (before : List Text) : List Text → List Occurrence
  | [] => []
  | token :: rest => ⟨line, before, token⟩ :: occurrencesFrom line (before ++ [token]) rest

/-- The plain tokens that are **met** in lines of which the first follows line number `line`, in the
order of reading. Those of comments do not count. -/
def occurrences (line : ℕ) (lines : List Text) : List Occurrence :=
  ((lines.zipIdx (line + 1)).filter fun numbered ↦ !Line.isComment numbered.1).flatMap
    fun numbered ↦
      (occurrencesFrom numbered.2 [] (Line.tokens numbered.1)).filter (Line.isPlain ·.token)

/-- The tokens that are **kept** of those that are met in lines. -/
def kept (line : ℕ) (lines : List Text) : List Text :=
  ((occurrences line lines).filter Occurrence.isKept).map Occurrence.token

theorem mem_occurrencesFrom_iff {line : ℕ} {before tokens : List Text} {o : Occurrence} :
    o ∈ occurrencesFrom line before tokens ↔ o.line = line ∧ ∃ between after,
      o.before = before ++ between ∧ tokens = between ++ o.token :: after := by
  induction tokens generalizing before with
  | nil => simp [occurrencesFrom]
  | cons token rest ih =>
    rw [occurrencesFrom, List.mem_cons, ih]
    constructor
    · rintro (rfl | ⟨hline, between, after, hbefore, rfl⟩)
      · exact ⟨rfl, [], rest, (List.append_nil _).symm, rfl⟩
      · exact ⟨hline, token :: between, after, by rw [hbefore, List.append_assoc]; rfl, rfl⟩
    · rintro ⟨hline, between, after, hbefore, htokens⟩
      cases between with
      | nil =>
        obtain ⟨rfl, rfl⟩ := List.cons.inj htokens
        rw [List.append_nil] at hbefore
        obtain ⟨number, start, first⟩ := o
        exact .inl (by rw [← hline, ← hbefore])
      | cons first between =>
        obtain ⟨rfl, rfl⟩ := List.cons.inj htokens
        exact .inr ⟨hline, between, after, by rw [hbefore, List.append_assoc]; rfl, rfl⟩

/-- An occurrence is met on a line of its number, which is no comment, behind the tokens that stand
before it there. -/
theorem mem_occurrences_iff {line : ℕ} {lines : List Text} {o : Occurrence} :
    o ∈ occurrences line lines ↔ ∃ raw after, (raw, o.line) ∈ lines.zipIdx (line + 1) ∧
      Line.isComment raw = false ∧ Line.tokens raw = o.before ++ o.token :: after ∧
        Line.isPlain o.token = true := by
  simp only [occurrences, List.mem_flatMap, List.mem_filter, Bool.not_eq_true',
    mem_occurrencesFrom_iff, List.nil_append, Prod.exists]
  constructor
  · rintro ⟨raw, number, ⟨hmem, hcomment⟩, ⟨rfl, between, after, rfl, htokens⟩, hplain⟩
    exact ⟨raw, after, hmem, hcomment, htokens, hplain⟩
  · rintro ⟨raw, after, hmem, hcomment, htokens, hplain⟩
    exact ⟨raw, o.line, ⟨hmem, hcomment⟩, ⟨rfl, o.before, after, rfl, htokens⟩, hplain⟩

/-! ### Kept tokens -/

/-- The kept tokens of the last part of a line: those up to the first that is not plain, when there
is none before. -/
theorem map_token_filter_occurrencesFrom (line : ℕ) (before tokens : List Text) :
    (((occurrencesFrom line before tokens).filter (Line.isPlain ·.token)).filter
        Occurrence.isKept).map Occurrence.token =
      if before.all Line.isPlain then tokens.takeWhile Line.isPlain else [] := by
  induction tokens generalizing before with
  | nil => simp [occurrencesFrom]
  | cons token rest ih =>
    have hall : (before ++ [token]).all Line.isPlain =
        (before.all Line.isPlain && Line.isPlain token) := by simp
    rw [occurrencesFrom, List.filter_cons, List.takeWhile_cons]
    cases hplain : Line.isPlain token with
    | false =>
      simp only [Bool.false_eq_true, if_false, ih, hall, hplain, Bool.and_false, ite_self]
    | true =>
      rw [if_pos rfl, if_pos rfl, List.filter_cons, Occurrence.isKept]
      cases hbefore : before.all Line.isPlain with
      | false => simp only [Bool.false_eq_true, if_false, ih, hall, hbefore, Bool.false_and]
      | true =>
        rw [if_pos rfl, if_pos rfl, List.map_cons, ih, hall, hbefore, hplain]
        rfl

/-- **The kept tokens are the bodies of the lines that are no comments.** -/
theorem kept_eq_bodies (line : ℕ) (lines : List Text) :
    kept line lines = bodies (lines.filter (!Line.isComment ·)) := by
  induction lines generalizing line with
  | nil => rfl
  | cons raw rest ih =>
    have hrest := ih (line + 1)
    rw [kept, occurrences] at hrest ⊢
    rw [List.zipIdx_cons, List.filter_cons, List.filter_cons]
    cases hcomment : Line.isComment raw with
    | true => exact hrest
    | false =>
      have hline := map_token_filter_occurrencesFrom (line + 1) [] (Line.tokens raw)
      simp only [Bool.not_false, if_true, List.flatMap_cons, List.filter_append, List.map_append,
        bodies_cons]
      rw [hrest, hline]
      rfl

/-- Tokens behind a continuation marker and in a comment are not kept. -/
example : kept 0 ["ship _ now\n".toList, "it # all\n".toList] = ["ship".toList, "it".toList] := by
  cbv

/-! ### Lost tokens -/

/-- The record of a line with tokens after its continuation marker, spelled out. -/
theorem excessRecord_eq (line : ℕ) :
    excessRecord line = ⟨.warning, "line ".toList ++ (toString line).toList ++
      ": Unexpected character after line continuation character.".toList, none⟩ := by
  rw [excessRecord, aboutLine, List.append_assoc _ ": ".toList]
  rfl

theorem excessRecords_eq (line : ℕ) (lines : List Text) :
    excessRecords line lines =
      ((lines.zipIdx (line + 1)).filter fun numbered ↦ Line.isExcessive numbered.1).map
        fun numbered ↦ ⟨.warning, "line ".toList ++ (toString numbered.2).toList ++
          ": Unexpected character after line continuation character.".toList, none⟩ := by
  simp only [excessRecords, excessRecord_eq]

/-- The record of a comment line that drops kept tokens, spelled out. -/
theorem dropRecord_eq (line : ℕ) :
    dropRecord line = ⟨.debug, "line ".toList ++ (toString line).toList ++
      ": comment drops pending continuation".toList, none⟩ := by
  rw [dropRecord, aboutLine, List.append_assoc _ ": ".toList]
  rfl

/-- A record about tokens after a marker is made for each line with such tokens. -/
theorem mem_excessRecords {line number : ℕ} {lines : List Text} {raw : Text}
    (h : (raw, number) ∈ lines.zipIdx (line + 1)) (hraw : Line.isExcessive raw = true) :
    excessRecord number ∈ excessRecords line lines :=
  List.mem_map.2 ⟨(raw, number), List.mem_filter.2 ⟨h, hraw⟩, rfl⟩

/-- **A token that is met is kept or lost at one of two places**, and of the second there is a
record: it stands behind a token that opens a comment, or behind a continuation marker. -/
theorem isKept_or_of_mem_occurrences {line : ℕ} {lines : List Text} {o : Occurrence}
    (h : o ∈ occurrences line lines) :
    o.isKept = true ∨ o.IsBehind Token.opensComment Token.isMarker ∨
      o.IsBehind Token.isMarker Token.opensComment ∧
        excessRecord o.line ∈ excessRecords line lines := by
  obtain ⟨raw, after, hmem, -, htokens, -⟩ := mem_occurrences_iff.1 h
  cases hstop : o.before.find? (!Line.isPlain ·) with
  | none =>
    refine .inl (List.all_eq_true.2 fun token htoken ↦ ?_)
    simpa using List.find?_eq_none.1 hstop token htoken
  | some stop =>
    -- it is lost at the first token before it that is not plain
    obtain ⟨hnot, first, later, hbefore, hfirst⟩ := List.find?_eq_some_iff_append.1 hstop
    have hplain : ∀ token ∈ first, Line.isPlain token = true := fun token htoken ↦ by
      simpa using hfirst token htoken
    refine .inr ?_
    cases hopens : Token.opensComment stop with
    | true =>
      refine .inl ⟨first, stop, later, hbefore, hopens, fun token htoken ↦ ?_⟩
      have hboth := hplain token htoken
      simp only [Line.isPlain, Bool.and_eq_true, Bool.not_eq_true'] at hboth
      exact hboth.2
    | false =>
      have hmarker := Line.isMarker_of_not_isPlain (by simpa using hnot) hopens
      refine .inr ⟨⟨first, stop, later, hbefore, hmarker, fun token htoken ↦ ?_⟩, ?_⟩
      · have hboth := hplain token htoken
        simp only [Line.isPlain, Bool.and_eq_true, Bool.not_eq_true'] at hboth
        exact hboth.1
      · refine mem_excessRecords hmem ((Line.isExcessive_iff raw).2
          ⟨first, stop, later ++ o.token :: after, ?_, hplain, hmarker, by simp⟩)
        rw [htokens, hbefore, List.append_assoc, List.cons_append]

/-! ### The account of a reading -/

/-- The **account** that a reading gives of the tokens that it meets. -/
structure Accounts (r : Reader) : Prop where
  /-- The reading consumes the first of the lines that are left, of which only the last can be a
  comment. -/
  lines : r.unread = r.consumed ++ r.read.reader.unread ∧
    r.read.reader.line = r.line + r.consumed.length ∧
    ∀ raw ∈ r.consumed.dropLast, Line.isComment raw = false
  /-- A comment is returned as it is. -/
  comment : ∀ raw ∈ r.consumed.getLast?, Line.isComment raw = true →
    r.read.command = Line.normalize raw
  /-- Otherwise the kept tokens are returned, in the order of reading and each as often as it is
  met; only blanks at the end are missing. -/
  command : (∀ raw ∈ r.consumed, Line.isComment raw = false) → kept r.line r.consumed ≠ [] →
    ∃ blanks : Text, (∀ c ∈ blanks, Text.isBlank c = true) ∧
      r.read.command ++ blanks = Token.join (kept r.line r.consumed) ∧
      Token.split (r.read.command ++ blanks) = kept r.line r.consumed
  /-- A token that is not kept stands behind a token that opens a comment, or behind a continuation
  marker, and then there is a warning that names its line. -/
  lost : ∀ o ∈ occurrences r.line r.consumed,
    o.isKept = true ∨ o.IsBehind Token.opensComment Token.isMarker ∨
      o.IsBehind Token.isMarker Token.opensComment ∧
        ⟨.warning, "line ".toList ++ (toString o.line).toList ++
          ": Unexpected character after line continuation character.".toList, none⟩ ∈
            r.read.records
  /-- The records: a warning for each line with tokens after its marker, and a last one when a
  comment drops tokens that have been kept. Each names the number of its line. -/
  records : r.read.records =
    (((r.consumed.zipIdx (r.line + 1)).filter fun numbered ↦ Line.isExcessive numbered.1).map
      fun numbered ↦ ⟨.warning, "line ".toList ++ (toString numbered.2).toList ++
        ": Unexpected character after line continuation character.".toList, none⟩) ++
    if r.consumed.getLast?.any Line.isComment ∧ kept r.line r.consumed ≠ [] then
      [⟨.debug, "line ".toList ++ (toString r.read.reader.line).toList ++
        ": comment drops pending continuation".toList, none⟩] else []

/-- The command of gathered tokens, with blanks behind it, is their join and splits into them. -/
theorem Gathered.exists_commandOf_append {tokens : List Text} (h : Gathered tokens)
    (hne : tokens ≠ []) :
    ∃ blanks : Text, (∀ c ∈ blanks, Text.isBlank c = true) ∧
      commandOf tokens ++ blanks = Token.join tokens ∧
      Token.split (commandOf tokens ++ blanks) = tokens := by
  obtain ⟨c, -, hcommand, -⟩ := h.exists_head?_commandOf hne
  obtain ⟨blanks, hblanks, hjoin⟩ := Text.exists_trimEnd_append (Token.join tokens)
  rw [← hcommand] at hjoin
  exact ⟨blanks, hblanks, hjoin, by rw [hjoin, h.row.split_join]⟩

/-- Lines without comments are all kept when the comments are left out. -/
theorem filter_not_isComment {lines : List Text} (h : ∀ raw ∈ lines, Line.isComment raw = false) :
    lines.filter (!Line.isComment ·) = lines :=
  List.filter_eq_self.2 fun raw hraw ↦ by simp [h raw hraw]

/-- A comment behind other lines makes no record about tokens after a marker. -/
theorem excessRecords_concat_of_isComment (line : ℕ) (lines : List Text) {raw : Text}
    (h : Line.isComment raw = true) :
    excessRecords line (lines ++ [raw]) = excessRecords line lines := by
  rw [excessRecords, List.zipIdx_append, List.filter_append, List.zipIdx_singleton,
    List.filter_singleton, Line.isExcessive_of_isComment h]
  exact congrArg _ (List.append_nil _)

variable {r : Reader}

/-- A reading that ends with a comment accounts for its tokens: the comment drops those that are
kept. -/
theorem accounts_of_isComment {before : List Text} {raw : Text}
    (hlines : r.consumed = before ++ [raw])
    (hbefore : ∀ other ∈ before, Line.isComment other = false) (hraw : Line.isComment raw = true)
    (hcommand : r.read.command = Line.normalize raw)
    (hrecords : r.read.records = excessRecords r.line before ++
      if bodies before = [] then [] else [dropRecord (r.line + before.length + 1)]) :
    r.Accounts := by
  obtain ⟨hunread, hline, -, -⟩ := r.harvest_read
  have hexcess : excessRecords r.line r.consumed = excessRecords r.line before := by
    rw [hlines, excessRecords_concat_of_isComment r.line before hraw]
  have hkept : kept r.line r.consumed = bodies before := by
    rw [kept_eq_bodies, hlines, List.filter_append, filter_not_isComment hbefore,
      List.filter_cons_of_neg (by simp [hraw]), List.filter_nil, List.append_nil]
  have hnumber : r.read.reader.line = r.line + before.length + 1 := by
    rw [hline, hlines, List.length_append, List.length_singleton, Nat.add_assoc]
  refine ⟨⟨hunread, hline, ?_⟩, ?_, ?_, fun o ho ↦ ?_, ?_⟩
  · rwa [hlines, List.dropLast_concat]
  · intro last hlast _
    rw [hlines, List.getLast?_concat, Option.mem_some_iff] at hlast
    rw [hcommand, hlast]
  · intro hnone
    simp [hnone raw (by simp [hlines])] at hraw
  · rw [← excessRecord_eq]
    refine (isKept_or_of_mem_occurrences ho).imp_right (.imp_right (.imp_right fun hmem ↦ ?_))
    rw [hrecords, ← hexcess]
    exact List.mem_append_left _ hmem
  · rw [← excessRecords_eq, ← dropRecord_eq, hrecords, hexcess, hkept, hnumber, hlines]
    simp [hraw]

/-- A reading that meets no comment accounts for its tokens: they are the command. -/
theorem accounts_of_not_isComment (hnone : ∀ raw ∈ r.consumed, Line.isComment raw = false)
    (hcommand : bodies r.consumed ≠ [] → r.read.command = commandOf (bodies r.consumed))
    (hrecords : r.read.records = excessRecords r.line r.consumed) : r.Accounts := by
  obtain ⟨hunread, hline, -, hgathered⟩ := r.harvest_read
  rw [filter_not_isComment hnone] at hgathered
  have hkept : kept r.line r.consumed = bodies r.consumed := by
    rw [kept_eq_bodies, filter_not_isComment hnone]
  have hlast : ∀ raw ∈ r.consumed.getLast?, Line.isComment raw = false :=
    fun raw hraw ↦ hnone raw (List.mem_of_mem_getLast? hraw)
  have hothers : ∀ raw ∈ r.consumed.dropLast, Line.isComment raw = false :=
    fun raw hraw ↦ hnone raw ((List.dropLast_sublist _).subset hraw)
  refine ⟨⟨hunread, hline, hothers⟩, ?_, ?_, fun o ho ↦ ?_, ?_⟩
  · intro raw hraw hcomment
    simp [hlast raw hraw] at hcomment
  · rw [hkept]
    intro _ hne
    rw [hcommand hne]
    exact hgathered.exists_commandOf_append hne
  · rw [← excessRecord_eq, hrecords]
    exact isKept_or_of_mem_occurrences ho
  · have hany : r.consumed.getLast?.any Line.isComment = false := by
      simpa [Option.any_eq_false] using hlast
    rw [← excessRecords_eq, hrecords, if_neg (by simp [hany]), List.append_nil]

/-- **Every reading accounts for the tokens that it meets.** By what its lines give. -/
theorem accounts (r : Reader) : r.Accounts := by
  obtain ⟨-, -, hharvest, -⟩ := r.harvest_read
  generalize hreading : r.read = reading at hharvest
  generalize hlines : r.consumed = lines at hharvest
  cases hharvest with
  | comment hbefore hraw =>
    exact accounts_of_isComment hlines hbefore hraw (by rw [hreading]) (by rw [hreading]; rfl)
  | command hnone hne =>
    rw [← hlines] at hnone
    exact accounts_of_not_isComment hnone (fun _ ↦ by rw [hreading, hlines]; rfl)
      (by rw [hreading, hlines])
  | nothing hnone hnil =>
    rw [← hlines] at hnone hnil
    exact accounts_of_not_isComment hnone (fun hne ↦ absurd hnil hne) (by rw [hreading, hlines])

/-- **No token is dropped without a trace.** After any number of readings of a text, the next one
consumes lines from those that are left and accounts for all plain tokens that it meets there. Those
with a token before them on their line that opens a comment are part of that comment, and those with
a continuation marker before them are lost with a warning that names the number of the line. All
others are kept: they are the command, in their order and each as often as it was met, up to blanks
at its end, unless a comment line drops them with a record that names the number of that line. No
other records are made: a warning for each line whose first token that is not plain is a marker and
not the last, in the order of the lines, and at most one about a comment behind them. -/
theorem tokens_accounted_for (t : Text) (n : ℕ) :
    ((ofText t).after n).unread = (Text.physicalLines t).drop ((ofText t).after n).line ∧
      ((ofText t).after n).Accounts ∧
      ∀ raw, Line.isExcessive raw = true ↔ ∃ before marker after,
        Line.tokens raw = before ++ marker :: after ∧
          (∀ token ∈ before, Line.isPlain token = true) ∧ Token.isMarker marker = true ∧
            after ≠ [] := by
  obtain ⟨k, -, hafter⟩ := exists_after_ofText t n
  refine ⟨?_, accounts _, Line.isExcessive_iff⟩
  rw [hafter]

end Reader

end CommandScript
