import CommandScript.Proofs.TokenRows

/-!
# The tokens of several lines, joined

A list of tokens comes back from the line that joins it exactly when it is a row
(`split_join_iff_row`), so what several lines split into, one after another, comes back when all of
it is a row again. Since each line splits into a row of its own, only one thing can be in the way:
a quote that one line leaves open and that swallows what is joined behind it. It does no harm where
no token follows, and harm wherever one does (`split_join_lines_iff`).

Which characters the tokens hold, and how many spaces stood between them in their lines, makes no
difference: what carries the proofs is that a token is complete as soon as it is not unclosed.
-/
namespace CommandScript.Token

/-! ### Rows without an unclosed token -/

theorem isUnclosed_cons_iff {c : Char} {rest : Text} :
    IsUnclosed (c :: rest) ↔ isQuote c = true ∧ c ∉ rest :=
  ⟨fun ⟨hq, hinner⟩ ↦ ⟨hq, hinner⟩, fun ⟨hq, hinner⟩ ↦ .quote hq hinner⟩

/-- Whether a token is unclosed can be read off it. -/
instance : DecidablePred IsUnclosed
  | [] => .isFalse nofun
  | _ :: _ => decidable_of_iff _ isUnclosed_cons_iff.symm

/-- A complete token is not unclosed: a quote that opens it stands at its end as well. -/
theorem IsComplete.not_isUnclosed {t : Text} (h : IsComplete t) : ¬IsUnclosed t := by
  intro hopen
  cases h with
  | word hc _ =>
    cases hopen with
    | quote hq _ => simp [hc] at hq
  | quoted _ _ =>
    cases hopen with
    | quote _ hinner => exact hinner (by simp)

/-- A token of a row is complete, or it is unclosed. -/
theorem Row.isComplete_or_isUnclosed {ts : List Text} (h : Row ts) :
    ∀ t ∈ ts, IsComplete t ∨ IsUnclosed t := by
  induction h with
  | nil => simp
  | unclosed hopen =>
    intro t ht
    rw [List.mem_singleton.1 ht]
    exact .inr hopen
  | cons hcomplete _ ih =>
    intro t ht
    rcases List.mem_cons.1 ht with rfl | ht
    · exact .inl hcomplete
    · exact ih t ht

/-- A line without an unclosed token splits into complete tokens. -/
theorem isComplete_of_mem_split {line : Text} (h : ∀ t ∈ split line, ¬IsUnclosed t) :
    ∀ t ∈ split line, IsComplete t := by
  intro t ht
  exact ((row_split line).isComplete_or_isUnclosed t ht).resolve_right (h t ht)

/-- **Tokens come back from the line that joins them just when they are a row.** -/
theorem split_join_iff_row {ts : List Text} : split (join ts) = ts ↔ Row ts := by
  constructor
  · intro h
    rw [← h]
    exact row_split _
  · exact Row.split_join

/-! ### Several lines -/

/-- The tokens of lines are a row exactly when no token follows a line with an unclosed one. -/
theorem row_flatMap_split_iff {lines : List Text} :
    Row (lines.flatMap split) ↔ ∀ before line after, lines = before ++ line :: after →
      (∃ t ∈ split line, IsUnclosed t) → after.flatMap split = [] := by
  constructor
  · rintro hrow before line after rfl ⟨t, ht, hopen⟩
    rw [List.flatMap_append, List.flatMap_cons, ← List.append_assoc] at hrow
    by_contra hne
    have hcomplete := hrow.isComplete_of_append hne t (List.mem_append_right _ ht)
    exact hcomplete.not_isUnclosed hopen
  · intro h
    induction lines with
    | nil => exact .nil
    | cons line rest ih =>
      have hrest := ih fun before l after heq ↦ h (line :: before) l after (by rw [heq]; rfl)
      rw [List.flatMap_cons]
      by_cases hopen : ∃ t ∈ split line, IsUnclosed t
      · rw [h [] line rest rfl hopen, List.append_nil]
        exact row_split line
      · exact .append (isComplete_of_mem_split fun t ht hun ↦ hopen ⟨t, ht, hun⟩) hrest

/-- Joining the tokens of lines and splitting again gives them back **just when** no token follows
a line with an unclosed one. -/
theorem split_join_lines_iff {lines : List Text} :
    split (join (lines.flatMap split)) = lines.flatMap split ↔
      ∀ before line after, lines = before ++ line :: after →
        (∃ t ∈ split line, IsUnclosed t) → after.flatMap split = [] :=
  split_join_iff_row.trans row_flatMap_split_iff

/-- **Joining the tokens of lines and splitting again gives them back.** When no line but the last
has an unclosed token, the tokens of all the lines, joined with single spaces, split into the same
tokens in the same order. -/
theorem split_join_flatMap_split {lines : List Text}
    (h : ∀ line ∈ lines.dropLast, ∀ t ∈ split line, ¬IsUnclosed t) :
    split (join (lines.flatMap split)) = lines.flatMap split := by
  rw [split_join_lines_iff]
  rintro before line after rfl ⟨t, ht, hopen⟩
  -- nothing can follow, since the line is the last
  suffices hafter : after = [] by rw [hafter, List.flatMap_nil]
  by_contra hne
  have hmem : line ∈ (before ++ line :: after).dropLast := by
    rw [List.dropLast_append_of_ne_nil (by simp), List.dropLast_cons_of_ne_nil hne]
    simp
  exact h line hmem t ht hopen

/-- Quoted tokens with spaces and the other quote in them, tokens that touch, a line without any,
and a quote in the last line that is never closed. -/
theorem split_join_flatMap_split_touching :
    let lines := ["say \"it's  on\"'a \"b\"'now".toList, "   ".toList, "  it's _ ".toList,
      "''end 'of \"it  ".toList]
    (∀ line ∈ lines.dropLast, ∀ t ∈ split line, ¬IsUnclosed t) ∧
      join (lines.flatMap split) =
        "say \"it's  on\" 'a \"b\"' now it's _ '' end 'of \"it  ".toList ∧
      split (join (lines.flatMap split)) = ["say".toList, "\"it's  on\"".toList,
        "'a \"b\"'".toList, "now".toList, "it's".toList, "_".toList, "''".toList, "end".toList,
        "'of \"it  ".toList] := by
  intro lines
  have hfirst : split "say \"it's  on\"'a \"b\"'now".toList =
      ["say".toList, "\"it's  on\"".toList, "'a \"b\"'".toList, "now".toList] := by cbv
  have hsecond : split "   ".toList = [] := by cbv
  have hthird : split "  it's _ ".toList = ["it's".toList, "_".toList] := by cbv
  have hlast : split "''end 'of \"it  ".toList =
      ["''".toList, "end".toList, "'of \"it  ".toList] := by cbv
  have hclosed : ∀ line ∈ lines.dropLast, ∀ t ∈ split line, ¬IsUnclosed t := by
    simp only [lines, List.dropLast_cons_cons, List.dropLast_singleton, List.forall_mem_cons,
      hfirst, hsecond, hthird]
    decide
  refine ⟨hclosed, ?_, ?_⟩
  · simp only [lines, List.flatMap_cons, List.flatMap_nil, hfirst, hsecond, hthird, hlast]
    decide
  · rw [split_join_flatMap_split hclosed]
    simp only [lines, List.flatMap_cons, List.flatMap_nil, hfirst, hsecond, hthird, hlast]
    rfl

/-- A quote that the first line leaves open swallows the second. -/
example : split (join (["a 'b".toList, "c".toList].flatMap split)) =
    ["a".toList, "'b c".toList] := by cbv

end CommandScript.Token
