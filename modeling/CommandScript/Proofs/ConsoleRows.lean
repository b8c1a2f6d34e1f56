import CommandScript.Console.Layout
import CommandScript.Proofs.ConsoleColumns
import CommandScript.Proofs.EmojiCodes
import CommandScript.Proofs.Trimming

/-!
# Rows of a console

A line is cut into words, and the words are put into rows: the rows of a line, before they are cut
in their turn, are a cut of it (`flatten_wrapFrom`). Nothing that a console does to a text makes it
longer, but for spaces at the end of a row, and nothing adds a colon (`count_colon_of_mem_rows`). A
text without blanks at its ends is therefore shown **verbatim**, as one row that is the text, just
when nothing is done to it: it holds no emoji code and no character that is left out, and it
**fits** the columns (`Fits.verbatim`, `Verbatim.fits`). This is so whatever pictures the console
knows.
-/
namespace CommandScript.Console

open Text

/-! ### Words -/

theorem words_of_blank {line : Text} (h : line.dropWhile isBlank = []) : words line = [] := by
  rw [words]
  split
  · rfl
  · next hcons =>
    rw [hcons] at h
    cases h

/-- A line that is not blank: its first word, which ends with a blank if there is another word. -/
theorem exists_words_eq {line : Text} (h : line.dropWhile isBlank ≠ []) :
    ∃ word rest, line = word ++ rest ∧ words line = word :: words rest ∧
      rest.length < line.length ∧ (∀ c ∈ rest.head?, isBlank c = false) ∧
      (rest ≠ [] → ∃ c ∈ word.getLast?, isBlank c = true) := by
  rw [words]
  split
  · next hnil => exact absurd hnil h
  · next c after hcons =>
    let blanks := line.takeWhile isBlank
    let bare := after.takeWhile fun c ↦ !isBlank c
    let behind := after.dropWhile fun c ↦ !isBlank c
    have hline : line = blanks ++ c :: (bare ++ behind) := by
      rw [List.takeWhile_append_dropWhile, ← hcons, List.takeWhile_append_dropWhile]
    have hbehind : behind = behind.takeWhile isBlank ++ behind.dropWhile isBlank :=
      List.takeWhile_append_dropWhile.symm
    refine ⟨blanks ++ c :: bare ++ behind.takeWhile isBlank, behind.dropWhile isBlank, ?_, rfl, ?_,
      fun d hd ↦ ?_, fun hne ↦ ?_⟩
    · conv_lhs => rw [hline, hbehind]
      simp
    · have hlength := congrArg List.length hline
      have hle := (List.dropWhile_suffix (l := behind) isBlank).length_le
      simp only [List.length_append, List.length_cons] at hlength
      omega
    · exact eq_false_of_mem_head?_dropWhile hd
    · -- what stands behind the bare word begins with a blank
      have hne : behind.takeWhile isBlank ≠ [] := by
        cases hfirst : behind with
        | nil => simp [hfirst] at hne
        | cons b others =>
          have hblank : isBlank b = true := by
            have hhead : b ∈ behind.head? := by rw [hfirst]; rfl
            simpa using eq_false_of_mem_head?_dropWhile hhead
          simp [hblank]
      refine ⟨_, ?_, List.mem_takeWhile_imp (List.getLast_mem hne)⟩
      rw [List.getLast?_append_of_ne_nil _ hne, List.getLast?_eq_some_getLast hne]
      rfl

/-- **The words of a line are a cut of it**, unless it is blank. -/
theorem flatten_words {line : Text} (h : line.dropWhile isBlank ≠ []) :
    (words line).flatten = line := by
  induction hlength : line.length using Nat.strong_induction_on generalizing line with
  | _ length ih =>
  obtain ⟨word, rest, hline, hwords, hlt, hrest, -⟩ := exists_words_eq h
  rw [hwords, List.flatten_cons]
  conv_rhs => rw [hline]
  congr 1
  -- the word has taken its blanks along, so that the rest is no line of blanks
  rcases eq_or_ne rest [] with rfl | hne
  · rw [words_of_blank rfl, List.flatten_nil]
  · refine ih _ (hlength ▸ hlt) ?_ rfl
    obtain ⟨c, after, rfl⟩ := List.exists_cons_of_ne_nil hne
    rw [List.dropWhile_cons_of_neg (by simpa using hrest c rfl)]
    exact hne

/-- The words of a line take no more columns than the line. -/
theorem sum_columns_words_le (last : Option Char) (line : Text) :
    ((words line).map columns).sum ≤ columnsAfter last line := by
  induction hlength : line.length using Nat.strong_induction_on generalizing line last with
  | _ length ih =>
  by_cases hblank : line.dropWhile isBlank = []
  · rw [words_of_blank hblank]
    exact Nat.zero_le _
  · obtain ⟨word, rest, hline, hwords, hlt, -, hend⟩ := exists_words_eq hblank
    rw [hwords, List.map_cons, List.sum_cons, hline]
    rcases eq_or_ne rest [] with rfl | hne
    · rw [words_of_blank rfl, List.append_nil]
      exact columnsAfter_none_le last word
    · -- a word before another one ends with a blank, so that nothing is joined across its end
      have hjoiner : word.getLast? ≠ some joiner := by
        obtain ⟨c, hc, hblank⟩ := hend hne
        rintro hlast
        rw [hlast] at hc
        cases hc
        exact absurd hblank (by decide)
      obtain ⟨last', hlast'⟩ := exists_columnsAfter_append last hjoiner
      rw [hlast']
      exact Nat.add_le_add (columnsAfter_none_le last word) (ih _ (hlength ▸ hlt) last' rest rfl)

/-! ### Wrapping -/

theorem flatten_consFirst (t : Text) (pieces : List Text) :
    (consFirst t pieces).flatten = t ++ pieces.flatten := by
  cases pieces <;> simp [consFirst]

/-- Folding clusters cuts their text. -/
theorem flatten_fold (width used : ℕ) (cs : List Cluster) :
    (fold width used cs).flatten = cs.flatMap Cluster.text := by
  induction cs generalizing used with
  | nil => rfl
  | cons c cs ih =>
    rw [fold, List.flatMap_cons]
    split
    · rw [flatten_consFirst, ih]
    · rw [List.flatten_cons, flatten_consFirst, ih, List.nil_append]

theorem flatten_dropLast_append_getLastD (pieces : List Text) :
    pieces.dropLast.flatten ++ pieces.getLastD [] = pieces.flatten := by
  rcases List.eq_nil_or_concat pieces with rfl | ⟨others, last, rfl⟩
  · rfl
  · simp

/-- **Wrapping cuts a line into rows.** -/
theorem flatten_wrapFrom (width : ℕ) (row : Text) (column : ℕ) (ws : List Text) :
    (wrapFrom width row column ws).flatten = row ++ ws.flatten := by
  induction ws generalizing row column with
  | nil => simp [wrapFrom]
  | cons word ws ih =>
    have hfinished : (if row.isEmpty then [] else [row]).flatten = row := by
      cases row <;> simp
    rw [wrapFrom]
    dsimp only
    split
    · rw [ih, List.flatten_cons, List.append_assoc]
    · split
      · rw [List.flatten_append, List.flatten_append, hfinished, ih, List.flatten_cons]
        have hfold := flatten_fold width 0 (clusters word)
        rw [flatMap_text_clusters] at hfold
        have hfolded : (if row.isEmpty then
            (fold width 0 (clusters word)).filter (!·.isEmpty) else
              fold width 0 (clusters word)).flatten = word := by
          split
          · rw [List.flatten_filter_not_isEmpty, hfold]
          · exact hfold
        rw [List.append_assoc, ← List.append_assoc _ _ ws.flatten,
          flatten_dropLast_append_getLastD, hfolded]
      · rw [List.flatten_append, hfinished, ih, List.flatten_cons]

/-- Words that fit are put into one row. -/
theorem wrapFrom_of_le {width column : ℕ} (row : Text) {ws : List Text}
    (h : column + (ws.map columns).sum ≤ width) :
    wrapFrom width row column ws = [row ++ ws.flatten] := by
  induction ws generalizing row column with
  | nil => simp [wrapFrom]
  | cons word ws ih =>
    rw [List.map_cons, List.sum_cons] at h
    -- the blanks at its end need not fit, but the next word starts behind them
    have hbare : bareColumns word ≤ columns word := by
      obtain ⟨blanks, hblanks⟩ := trimEnd_prefix_self word
      conv_rhs => rw [← hblanks]
      exact columnsAfter_le_append none _ blanks
    rw [wrapFrom, if_pos (by omega), ih _ (by omega), List.flatten_cons, List.append_assoc]

theorem wrapFrom_ne_nil (width : ℕ) (row : Text) (column : ℕ) (ws : List Text) :
    wrapFrom width row column ws ≠ [] := by
  induction ws generalizing row column with
  | nil => simp [wrapFrom]
  | cons word ws ih =>
    rw [wrapFrom]
    dsimp only
    split
    · exact ih _ _
    · split
      · exact List.append_ne_nil_of_right_ne_nil _ (ih _ _)
      · exact List.append_ne_nil_of_right_ne_nil _ (ih _ _)

/-! ### Rows -/

theorem mem_fillTabs {column : ℕ} {parts : List Text} {c : Char} (h : c ∈ fillTabs column parts) :
    c = ' ' ∨ ∃ part ∈ parts, c ∈ part := by
  fun_induction fillTabs column parts with
  | case1 => cases h
  | case2 column part => exact .inr ⟨part, List.mem_cons_self, h⟩
  | case3 column part rest _ start filler ih =>
    rcases List.mem_append.1 h with h | h
    · rcases List.mem_append.1 h with h | h
      · exact .inr ⟨part, List.mem_cons_self, h⟩
      · exact .inl (List.eq_of_mem_replicate h)
    · refine (ih h).imp_right ?_
      rintro ⟨other, hother, hc⟩
      exact ⟨other, List.mem_cons_of_mem part hother, hc⟩

/-- Tabs are filled with spaces only. -/
theorem count_fillTabs {c : Char} (hc : c ≠ ' ') (column : ℕ) (parts : List Text) :
    (fillTabs column parts).count c = parts.flatten.count c := by
  fun_induction fillTabs column parts with
  | case1 => rfl
  | case2 column part => rw [List.flatten_singleton]
  | case3 column part rest _ start filler ih =>
    have hfiller : (List.replicate filler ' ').count c = 0 :=
      List.count_eq_zero_of_not_mem fun hmem ↦ hc (List.eq_of_mem_replicate hmem)
    rw [List.count_append, List.count_append, hfiller, ih, List.flatten_cons, List.count_append,
      Nat.add_zero]

/-- A row that is cut to a text without a blank at its end is cut to a first part of itself. It is
not cut at all only if it fits, or if its clusters do. -/
theorem prefix_of_cutRow {width : ℕ} {row t : Text} (htight : Tight t) (hne : t ≠ [])
    (h : cutRow width row = t) :
    t <+: row ∧ (t = row → columns t ≤ width ∨ takeColumns width t = t) := by
  rw [cutRow] at h
  generalize hkept : row.take _ = kept at h
  have hbegins : kept <+: row := hkept ▸ List.take_prefix _ _
  split at h
  · next hle =>
    subst h
    exact ⟨hbegins, fun _ ↦ .inl hle⟩
  · rw [padColumns] at h
    -- no space stands in for half a character, since the text ends with no blank
    have hnone : width - columns (takeColumns width kept) = 0 := by
      by_contra hpos
      obtain ⟨n, hn⟩ := Nat.exists_eq_succ_of_ne_zero hpos
      rw [hn, Nat.succ_eq_add_one, List.replicate_succ'] at h
      have hspace := htight.last ' ' (by rw [← h]; simp)
      exact absurd hspace (by decide)
    rw [hnone, List.replicate_zero, List.append_nil] at h
    have htaken := takeColumns_prefix_self width kept
    rw [h] at htaken
    refine ⟨htaken.trans hbegins, fun hrow ↦ .inr ?_⟩
    have hsame : kept = t := (hbegins.eq_of_length_le (hrow ▸ htaken.length_le)).trans hrow.symm
    rwa [hsame] at h

/-- A row that fits and ends with no blank is not cut. -/
theorem cutRow_eq_self {width : ℕ} {row : Text} (htight : Tight row)
    (h : columns row ≤ width) : cutRow width row = row := by
  rw [cutRow, trimEnd_eq_self htight.last]
  simp [h]

/-- A row that is cut gains spaces only. -/
theorem count_cutRow_le {c : Char} (hc : c ≠ ' ') (width : ℕ) (row : Text) :
    (cutRow width row).count c ≤ row.count c := by
  rw [cutRow]
  generalize hkept : row.take _ = kept
  have hbegins : kept <+: row := hkept ▸ List.take_prefix _ _
  split
  · exact hbegins.sublist.count_le c
  · have htaken := (takeColumns_prefix_self width kept).trans hbegins
    have hfiller (n : ℕ) : (List.replicate n ' ').count c = 0 :=
      List.count_eq_zero_of_not_mem fun hmem ↦ hc (List.eq_of_mem_replicate hmem)
    rw [padColumns, List.count_append, hfiller, Nat.add_zero]
    exact htaken.sublist.count_le c

theorem mem_cutRow {width : ℕ} {row : Text} {c : Char} (h : c ∈ cutRow width row) :
    c ∈ row ∨ c = ' ' := by
  rw [cutRow] at h
  split at h
  · exact .inl (List.mem_of_mem_take h)
  · rw [padColumns] at h
    rcases List.mem_append.1 h with h | h
    · exact .inl (List.mem_of_mem_take ((takeColumns_prefix_self _ _).subset h))
    · exact .inr (List.eq_of_mem_replicate h)

/-- **The rows of a line are a cut of it**, each row cut in its turn. -/
theorem exists_wrapLine_eq (width : ℕ) (line : Text) :
    ∃ rows, rows ≠ [] ∧ rows.flatten = line ∧ wrapLine width line = rows.map (cutRow width) := by
  rw [wrapLine]
  by_cases hblank : line.dropWhile isBlank = []
  · exact ⟨[line], by simp, by simp, by rw [words_of_blank hblank]⟩
  · have hflatten := flatten_words hblank
    obtain ⟨word, rest, -, hwords, -⟩ := exists_words_eq hblank
    refine ⟨wrapFrom width [] 0 (words line), wrapFrom_ne_nil _ _ _ _, ?_, ?_⟩
    · rw [flatten_wrapFrom, hflatten, List.nil_append]
    · rw [hwords]

/-- A line that fits and has no blank at its ends is its only row. -/
theorem wrapLine_of_le {width : ℕ} {line : Text} (htight : Tight line) (hne : line ≠ [])
    (h : columns line ≤ width) : wrapLine width line = [line] := by
  have hblank : line.dropWhile isBlank ≠ [] := by
    obtain ⟨c, rest, rfl⟩ := List.exists_cons_of_ne_nil hne
    rw [List.dropWhile_cons_of_neg (by simpa using htight.head c rfl)]
    exact hne
  have hsum := (sum_columns_words_le none line).trans h
  obtain ⟨word, rest, -, hwords, -⟩ := exists_words_eq hblank
  have hwrap : wrapFrom width [] 0 (words line) = [line] := by
    rw [wrapFrom_of_le [] (by rwa [Nat.zero_add]), flatten_words hblank, List.nil_append]
  rw [wrapLine, hwords]
  rw [hwords] at hwrap
  simp only [hwrap, List.map_cons, List.map_nil, cutRow_eq_self htight h]

/-- The rows of a text without line feeds and tabs are those of one line. -/
theorem rows_of_not_mem {width : ℕ} {t : Text} (hwidth : 0 < width) (hnewline : '\n' ∉ t)
    (htab : '\t' ∉ t) : rows width t = wrapLine width (visible t) := by
  have hnewline' : '\n' ∉ visible t := fun h ↦ hnewline (List.mem_of_mem_filter h)
  have htab' : '\t' ∉ visible t := fun h ↦ htab (List.mem_of_mem_filter h)
  rw [rows, if_neg hwidth.ne', fields_of_not_mem hnewline', List.flatMap_singleton, expandTabs,
    fields_of_not_mem htab', fillTabs]

/-- A console with a width shows at least one row for a text. -/
theorem rows_ne_nil {width : ℕ} (hwidth : 0 < width) (t : Text) : rows width t ≠ [] := by
  rw [rows, if_neg hwidth.ne']
  obtain ⟨field, others, hfields⟩ := List.exists_cons_of_ne_nil (fields_ne_nil '\n' (visible t))
  obtain ⟨wrapped, hne, -, hwrap⟩ := exists_wrapLine_eq width (expandTabs field)
  rw [hfields, List.flatMap_cons, hwrap]
  exact List.append_ne_nil_of_left_ne_nil (by simpa using hne) _

/-- No row holds a line feed. -/
theorem newline_not_mem_rows {width : ℕ} {t row : Text} (h : row ∈ rows width t) : '\n' ∉ row := by
  rw [rows] at h
  split at h
  · cases h
  · obtain ⟨field, hfield, hrow⟩ := List.mem_flatMap.1 h
    obtain ⟨wrapped, -, hflatten, hwrap⟩ := exists_wrapLine_eq width (expandTabs field)
    rw [hwrap] at hrow
    obtain ⟨uncut, huncut, rfl⟩ := List.mem_map.1 hrow
    intro hnewline
    rcases mem_cutRow hnewline with hnewline | hspace
    · have hline : '\n' ∈ expandTabs field := hflatten ▸ List.mem_flatten.2 ⟨_, huncut, hnewline⟩
      rcases mem_fillTabs hline with hspace | ⟨part, hpart, hnewline⟩
      · exact absurd hspace (by decide)
      · exact not_mem_of_mem_fields hfield (mem_of_mem_fields hpart hnewline)
    · exact absurd hspace (by decide)

/-- **No row has more colons than the text.** -/
theorem count_colon_of_mem_rows {width : ℕ} {t row : Text} (h : row ∈ rows width t) :
    row.count ':' ≤ t.count ':' := by
  rw [rows] at h
  split at h
  · cases h
  obtain ⟨field, hfield, hrow⟩ := List.mem_flatMap.1 h
  obtain ⟨wrapped, -, hflatten, hwrap⟩ := exists_wrapLine_eq width (expandTabs field)
  rw [hwrap] at hrow
  obtain ⟨uncut, huncut, rfl⟩ := List.mem_map.1 hrow
  calc (cutRow width uncut).count ':'
    _ ≤ uncut.count ':' := count_cutRow_le (by decide) width uncut
    _ ≤ (expandTabs field).count ':' := by
      rw [← hflatten]
      exact (List.sublist_flatten_of_mem huncut).count_le ':'
    _ = (field.filter (· ≠ '\t')).count ':' := by
      rw [expandTabs, count_fillTabs (by decide), flatten_fields]
    _ ≤ field.count ':' := List.filter_sublist.count_le ':'
    _ ≤ (fields '\n' (visible t)).flatten.count ':' :=
      (List.sublist_flatten_of_mem hfield).count_le ':'
    _ = ((visible t).filter (· ≠ '\n')).count ':' := by rw [flatten_fields]
    _ ≤ (visible t).count ':' := List.filter_sublist.count_le ':'
    _ ≤ t.count ':' := List.filter_sublist.count_le ':'

/-! ### Texts that are shown as they stand -/

variable {pictures : Pictures}

/-- A console shows a text **verbatim** when the text is its only row. -/
def Verbatim (pictures : Pictures) (width : ℕ) (t : Text) : Prop :=
  rows width (showEmoji pictures t) = [t]

/-- A text **fits** a console: it holds no emoji code and no character that is left out, and takes
no more columns than there are. -/
structure Fits (pictures : Pictures) (width : ℕ) (t : Text) : Prop where
  /-- There are columns. -/
  width_pos : 0 < width
  /-- There is no emoji code. -/
  showEmoji_eq : showEmoji pictures t = t
  /-- No character is left out. -/
  visible_eq : visible t = t
  /-- There are columns enough. -/
  columns_le : columns t ≤ width

/-- **What fits is shown verbatim.** -/
theorem Fits.verbatim {width : ℕ} {t : Text} (h : Fits pictures width t) (htight : Tight t)
    (hne : t ≠ []) (hnewline : '\n' ∉ t) (htab : '\t' ∉ t) : Verbatim pictures width t := by
  rw [Verbatim, h.showEmoji_eq, rows_of_not_mem h.width_pos hnewline htab, h.visible_eq]
  exact wrapLine_of_le htight hne h.columns_le

/-- A single row of a line: it is no longer than the line, and if it is the line, that fits, or its
clusters do. -/
theorem prefix_of_wrapLine {width : ℕ} {line t : Text} (htight : Tight t) (hne : t ≠ [])
    (h : wrapLine width line = [t]) :
    t <+: line ∧ (t = line → columns t ≤ width ∨ takeColumns width t = t) := by
  obtain ⟨rows, -, hflatten, hwrap⟩ := exists_wrapLine_eq width line
  rw [hwrap] at h
  obtain ⟨row, rfl, hrow⟩ := List.map_eq_singleton_iff.1 h
  rw [List.flatten_singleton] at hflatten
  subst hflatten
  exact prefix_of_cutRow htight hne hrow

/-- **Only what fits is shown verbatim**, but for a text that begins with a joiner, whose columns
are counted otherwise when it is folded. A code that is shown takes colons away, and nothing on the
way to the rows gives them back or makes a text longer, so a text that comes out as it is has been
changed nowhere. -/
theorem Verbatim.fits {width : ℕ} {t : Text} (h : Verbatim pictures width t) (htight : Tight t)
    (hne : t ≠ []) (hnewline : '\n' ∉ t) (htab : '\t' ∉ t) :
    0 < width ∧ showEmoji pictures t = t ∧ visible t = t ∧
      (columns t ≤ width ∨ t.head? = some joiner) := by
  have hwidth : 0 < width := by
    by_contra hzero
    rw [Verbatim, rows, if_pos (by omega)] at h
    cases h
  have hcolons : t.count ':' ≤ (showEmoji pictures t).count ':' :=
    count_colon_of_mem_rows (by rw [h]; exact List.mem_singleton_self t)
  have hshown : showEmoji pictures t = t :=
    (showEmoji_eq_or_count_lt pictures t).resolve_right (Nat.not_lt.2 hcolons)
  rw [Verbatim, hshown, rows_of_not_mem hwidth hnewline htab] at h
  obtain ⟨hbegins, hfits⟩ := prefix_of_wrapLine htight hne h
  have hvisible : t = visible t := hbegins.eq_of_length_le (List.length_filter_le _ _)
  refine ⟨hwidth, hshown, hvisible.symm, ?_⟩
  by_cases hjoiner : t.head? = some joiner
  · exact .inr hjoiner
  · rcases hfits hvisible with hle | htaken
    · exact .inl hle
    · exact .inl (columns_le_of_takeColumns hjoiner htaken)

end CommandScript.Console
