import CommandScript.Proofs.Trimming
import CommandScript.Token

/-!
# Rows of tokens

A token is **complete** when it is a word, or a quoted text with its closing quote; a text that a
quote opens and none closes is **unclosed**. A **row** is a list of complete tokens, of which the
last may be unclosed instead: nothing can follow a quote that is never closed.

* `row_split`: every line splits into a row.
* `Row.split_join`: a row, joined with single spaces, splits into itself again. This is where rows
  are needed: an unclosed token before another one would swallow it.
* `Row.exists_trimEnd_join`: trimming the end of a joined row shortens its last token, or drops it
  with the space before it, and leaves a joined row.
-/
namespace CommandScript.Token

/-- A **complete** token. -/
inductive IsComplete : Text → Prop
  /-- A word. -/
  | word {c : Char} {rest : Text} (hc : isQuote c = false) (hsep : separator ∉ c :: rest) :
      IsComplete (c :: rest)
  /-- A quoted text with its closing quote. -/
  | quoted {q : Char} {inner : Text} (hq : isQuote q = true) (hinner : q ∉ inner) :
      IsComplete (q :: inner ++ [q])

/-- An **unclosed** token. -/
inductive IsUnclosed : Text → Prop
  /-- A quote, and no second one of its kind. -/
  | quote {q : Char} {inner : Text} (hq : isQuote q = true) (hinner : q ∉ inner) :
      IsUnclosed (q :: inner)

/-- A **row** of tokens: complete ones, of which the last may be unclosed instead. -/
inductive Row : List Text → Prop
  /-- The empty row. -/
  | nil : Row []
  /-- An unclosed token, after which nothing comes. -/
  | unclosed {t : Text} (h : IsUnclosed t) : Row [t]
  /-- A complete token before a row. -/
  | cons {t : Text} {ts : List Text} (h : IsComplete t) (hts : Row ts) : Row (t :: ts)

/-! ### Splitting at one token -/

@[simp] theorem split_nil : split [] = [] := by rw [split]

/-- A separator before a line makes no difference. -/
@[simp] theorem split_separator_cons (rest : Text) : split (separator :: rest) = split rest := by
  rw [split, if_pos rfl]

theorem isQuote_separator : isQuote separator = false := rfl

theorem ne_separator_of_isQuote {q : Char} (hq : isQuote q = true) : q ≠ separator := by
  rintro rfl
  rw [isQuote_separator] at hq
  exact absurd hq (by simp)

/-- A text without a character is passed over in the search for it. -/
theorem bne_of_not_mem {c : Char} {t : Text} (h : c ∉ t) : ∀ d ∈ t, (d != c) = true := by
  intro d hd
  have hne : d ≠ c := fun heq ↦ h (heq ▸ hd)
  simpa using hne

/-- The search for a character passes over texts without it only. -/
theorem not_mem_takeWhile_bne (c : Char) (t : Text) : c ∉ t.takeWhile (· != c) := fun hmem ↦ by
  simpa using List.mem_takeWhile_imp hmem

/-- The search for a character stops at it. -/
theorem eq_of_mem_head?_dropWhile_bne {c : Char} {t : Text} :
    ∀ d ∈ (t.dropWhile (· != c)).head?, d = c := by
  intro d hd
  simpa using Text.eq_false_of_mem_head?_dropWhile hd

/-- A word before a separator, or before nothing, is split off. -/
theorem split_word_append {c : Char} {word rest : Text} (hc : isQuote c = false)
    (hsep : separator ∉ c :: word) (hrest : ∀ d ∈ rest.head?, d = separator) :
    split (c :: word ++ rest) = (c :: word) :: split rest := by
  have hne : c ≠ separator := fun h ↦ hsep (by simp [h])
  have hword := bne_of_not_mem fun hmem ↦ hsep (List.mem_cons_of_mem c hmem)
  have htake : rest.takeWhile (· != separator) = [] := by
    cases rest with
    | nil => rfl
    | cons d rest => simp [hrest d rfl]
  have hdrop : rest.dropWhile (· != separator) = rest := by
    cases rest with
    | nil => rfl
    | cons d rest => simp [hrest d rfl]
  rw [List.cons_append, split, if_neg hne, if_neg (by simp [hc])]
  simp only [List.takeWhile_append_of_pos hword, List.dropWhile_append_of_pos hword, htake, hdrop,
    List.append_nil]

/-- A quoted text is split off, whatever follows. -/
theorem split_quoted_append {q : Char} {inner : Text} (rest : Text) (hq : isQuote q = true)
    (hinner : q ∉ inner) :
    split (q :: inner ++ [q] ++ rest) = (q :: inner ++ [q]) :: split rest := by
  have hne := ne_separator_of_isQuote hq
  have hmem := bne_of_not_mem hinner
  have hdrop : (inner ++ q :: rest).dropWhile (· != q) = q :: rest := by
    rw [List.dropWhile_append_of_pos hmem]
    simp
  have htake : (inner ++ q :: rest).takeWhile (· != q) = inner := by
    rw [List.takeWhile_append_of_pos hmem]
    simp
  rw [show q :: inner ++ [q] ++ rest = q :: (inner ++ q :: rest) by simp, split, if_neg hne,
    if_pos hq]
  split
  · next h => rw [hdrop] at h; exact absurd h (by simp)
  · next close after h =>
    rw [hdrop] at h
    obtain ⟨rfl, rfl⟩ := List.cons.inj h
    rw [htake]

/-- An unclosed token is all of its line. -/
theorem IsUnclosed.split_eq {t : Text} (h : IsUnclosed t) : split t = [t] := by
  obtain @⟨q, inner, hq, hinner⟩ := h
  have hne := ne_separator_of_isQuote hq
  have hdrop : inner.dropWhile (· != q) = [] := List.dropWhile_eq_nil_iff.2 (bne_of_not_mem hinner)
  rw [split, if_neg hne, if_pos hq]
  split
  · rfl
  · next close after h => rw [hdrop] at h; exact absurd h (by simp)

/-- A complete token before a separator, or before nothing, is split off. -/
theorem IsComplete.split_append {t rest : Text} (h : IsComplete t)
    (hrest : ∀ d ∈ rest.head?, d = separator) : split (t ++ rest) = t :: split rest := by
  cases h with
  | word hc hsep => exact split_word_append hc hsep hrest
  | quoted hq hinner => exact split_quoted_append rest hq hinner

/-! ### Every line splits into a row -/

theorem row_split (line : Text) : Row (split line) := by
  fun_induction split line with
  | case1 => exact .nil
  | case2 rest ih => exact ih
  | case3 c rest hsep hq h =>
    refine .unclosed (.quote hq fun hmem ↦ ?_)
    have := List.dropWhile_eq_nil_iff.1 h c hmem
    simp at this
  | case4 c rest hsep hq close after h hlt ih =>
    obtain rfl : close = c := eq_of_mem_head?_dropWhile_bne (t := rest) close (by rw [h]; rfl)
    exact .cons (.quoted hq (not_mem_takeWhile_bne close rest)) ih
  | case5 c rest hsep hq hle ih =>
    refine .cons (.word (by simpa using hq) fun hmem ↦ ?_) ih
    rcases List.mem_cons.1 hmem with heq | hmem
    · exact hsep heq.symm
    · exact not_mem_takeWhile_bne _ _ hmem

/-- The first token of a line starts as the line does, when that is not with a separator. -/
theorem exists_head?_split {line : Text} {c : Char} (h : line.head? = some c)
    (hc : c ≠ separator) : ∃ token, (split line).head? = some token ∧ token.head? = some c := by
  cases line with
  | nil => simp at h
  | cons d rest =>
    obtain rfl : d = c := by simpa using h
    rw [split, if_neg hc]
    split
    · split
      · exact ⟨_, rfl, rfl⟩
      · exact ⟨_, rfl, rfl⟩
    · exact ⟨_, rfl, rfl⟩

/-- A token holds no character that its line does not hold. -/
theorem mem_of_mem_split {line token : Text} {c : Char} (h : token ∈ split line) (hc : c ∈ token) :
    c ∈ line := by
  fun_induction split line with
  | case1 => simp at h
  | case2 rest ih => exact List.mem_cons_of_mem _ (ih h)
  | case3 d rest hsep hq hopen =>
    obtain rfl := List.mem_singleton.1 h
    exact hc
  | case4 d rest hsep hq close after hafter hlt ih =>
    have hrest : rest = rest.takeWhile (· != d) ++ close :: after := by
      rw [← hafter, List.takeWhile_append_dropWhile]
    rcases List.mem_cons.1 h with rfl | h
    · rw [hrest, ← List.cons_append, List.mem_append]
      rcases List.mem_append.1 hc with hc | hc
      · exact .inl hc
      · exact .inr (List.mem_cons.2 (.inl (List.mem_singleton.1 hc)))
    · rw [hrest]
      exact List.mem_cons_of_mem _ (List.mem_append_right _ (List.mem_cons_of_mem _ (ih h)))
  | case5 d rest hsep hq hle ih =>
    rcases List.mem_cons.1 h with rfl | h
    · exact (List.cons_prefix_cons.2 ⟨rfl, List.takeWhile_prefix _⟩).subset hc
    · exact List.mem_cons_of_mem _ ((List.dropWhile_suffix _).subset (ih h))

/-! ### Building and cutting rows -/

/-- Complete tokens before a row make a row. -/
theorem Row.append {ts us : List Text} (hts : ∀ t ∈ ts, IsComplete t) (hus : Row us) :
    Row (ts ++ us) := by
  induction ts with
  | nil => exact hus
  | cons t ts ih =>
    exact .cons (hts t (by simp)) (ih fun u hu ↦ hts u (List.mem_cons_of_mem _ hu))

/-- Whatever stands before another token of a row is complete. -/
theorem Row.isComplete_of_append {ts us : List Text} (h : Row (ts ++ us)) (hus : us ≠ []) :
    ∀ t ∈ ts, IsComplete t := by
  induction ts with
  | nil => simp
  | cons t ts ih =>
    generalize hrow : t :: ts ++ us = row at h
    cases h with
    | nil => simp at hrow
    -- an unclosed token would be the last of the row
    | unclosed hopen => simp [hus] at hrow
    | cons hcomplete hrest =>
      obtain ⟨rfl, rfl⟩ := List.cons.inj hrow
      intro u hu
      rcases List.mem_cons.1 hu with rfl | hu
      · exact hcomplete
      · exact ih hrest u hu

/-- A last part of a row is a row. -/
theorem Row.of_append_right {ts us : List Text} (h : Row (ts ++ us)) : Row us := by
  induction ts with
  | nil => exact h
  | cons t ts ih =>
    generalize hrow : t :: ts ++ us = row at h
    cases h with
    | nil => simp at hrow
    | unclosed hopen =>
      obtain ⟨-, -, rfl⟩ : _ ∧ ts = [] ∧ us = [] := by simpa using hrow
      exact .nil
    | cons hcomplete hrest =>
      obtain ⟨rfl, rfl⟩ := List.cons.inj hrow
      exact ih hrest

/-- A first part of a row is a row. -/
theorem Row.of_append_left {ts us : List Text} (h : Row (ts ++ us)) : Row ts := by
  rcases eq_or_ne us [] with rfl | hus
  · rwa [List.append_nil] at h
  · have hts := Row.append (h.isComplete_of_append hus) .nil
    rwa [List.append_nil] at hts

/-! ### Joining -/

@[simp] theorem join_nil : join [] = [] := rfl

@[simp] theorem join_singleton (t : Text) : join [t] = t := by simp [join]

theorem join_cons_cons (t u : Text) (ts : List Text) :
    join (t :: u :: ts) = t ++ separator :: join (u :: ts) := by
  simp [join, List.intercalate_cons_cons]

/-- **A joined row splits into itself.** -/
theorem Row.split_join {ts : List Text} (h : Row ts) : split (join ts) = ts := by
  induction h with
  | nil => simp
  | unclosed hopen => rw [join_singleton, hopen.split_eq]
  | @cons t ts hcomplete _ ih =>
    cases ts with
    | nil =>
      rw [join_singleton]
      have hlast : split (t ++ []) = t :: split [] := hcomplete.split_append (by simp)
      rwa [List.append_nil, split_nil] at hlast
    | cons u us =>
      rw [join_cons_cons, hcomplete.split_append (by simp), split_separator_cons, ih]

/-- Joined tokens start as the first of them does. -/
theorem head?_join_cons {t : Text} {c : Char} (ts : List Text) (h : t.head? = some c) :
    (join (t :: ts)).head? = some c := by
  cases ts with
  | nil => rwa [join_singleton]
  | cons u us => rw [join_cons_cons, List.head?_append, h, Option.some_or]

/-- Texts with a character between each two hold their own characters and that one. -/
theorem eq_or_exists_mem_of_mem_intercalate {between c : Char} {ts : List Text}
    (h : c ∈ [between].intercalate ts) : c = between ∨ ∃ t ∈ ts, c ∈ t := by
  induction ts with
  | nil => simp at h
  | cons t ts ih =>
    cases ts with
    | nil => exact .inr ⟨t, by simp, by simpa using h⟩
    | cons u us =>
      rw [List.intercalate_cons_cons, List.append_assoc, List.mem_append, List.singleton_append,
        List.mem_cons] at h
      rcases h with h | h | h
      · exact .inr ⟨t, by simp, h⟩
      · exact .inl h
      · rcases ih h with h | ⟨v, hv, hc⟩
        · exact .inl h
        · exact .inr ⟨v, List.mem_cons_of_mem _ hv, hc⟩

/-- Joined tokens hold the characters of the tokens and the separator. -/
theorem eq_or_exists_mem_of_mem_join {ts : List Text} {c : Char} (h : c ∈ join ts) :
    c = separator ∨ ∃ t ∈ ts, c ∈ t :=
  eq_or_exists_mem_of_mem_intercalate h

theorem join_concat {ts : List Text} (t : Text) (h : ts ≠ []) :
    join (ts ++ [t]) = join ts ++ separator :: t := by
  induction ts with
  | nil => exact absurd rfl h
  | cons u us ih =>
    cases us with
    | nil => simp [join_cons_cons]
    | cons v vs =>
      rw [List.cons_append, List.cons_append, join_cons_cons, ← List.cons_append, ih (by simp),
        join_cons_cons, List.append_assoc, List.cons_append]

/-! ### Trimming a joined row -/

theorem isBlank_separator : Text.isBlank separator = true := rfl

theorem isBlank_of_isQuote {q : Char} (hq : isQuote q = true) : Text.isBlank q = false := by
  simp only [isQuote, Bool.or_eq_true, decide_eq_true_eq] at hq
  rcases hq with rfl | rfl <;> rfl

/-- What is left of a text that is trimmed at the end starts as the text does. -/
theorem head?_trimEnd_of_ne_nil {t : Text} (h : Text.trimEnd t ≠ []) :
    (Text.trimEnd t).head? = t.head? := by
  obtain ⟨cut, hcut⟩ := Text.trimEnd_prefix_self t
  conv_rhs => rw [← hcut]
  rw [List.head?_append_of_ne_nil _ h]

/-- What is left of a complete token that is trimmed at the end is complete. -/
theorem IsComplete.trimEnd {t : Text} (h : IsComplete t) (hne : Text.trimEnd t ≠ []) :
    IsComplete (Text.trimEnd t) := by
  cases h with
  | @word c rest hc hsep =>
    have hhead := head?_trimEnd_of_ne_nil hne
    have hsub := (Text.trimEnd_prefix_self (c :: rest)).subset
    cases hkept : Text.trimEnd (c :: rest) with
    | nil => exact absurd hkept hne
    | cons d kept =>
      rw [hkept] at hhead hsub
      obtain rfl : d = c := by simpa using hhead
      exact .word hc fun hmem ↦ hsep (hsub hmem)
  | @quoted q inner hq hinner =>
    have hlast : ∀ c ∈ (q :: inner ++ [q]).getLast?, Text.isBlank c = false := by
      rw [List.getLast?_concat]
      rintro c ⟨⟩
      exact isBlank_of_isQuote hq
    -- a quote stands at its end, so nothing is trimmed
    rw [Text.trimEnd_eq_self hlast]
    exact .quoted hq hinner

/-- What is left of an unclosed token that is trimmed at the end is unclosed. -/
theorem IsUnclosed.trimEnd {t : Text} (h : IsUnclosed t) : IsUnclosed (Text.trimEnd t) := by
  obtain @⟨q, inner, hq, hinner⟩ := h
  have hhead : (Text.trimEnd (q :: inner)).head? = some q :=
    Text.head?_trimEnd rfl (isBlank_of_isQuote hq)
  have hprefix := Text.trimEnd_prefix_self (q :: inner)
  cases hkept : Text.trimEnd (q :: inner) with
  | nil => simp [hkept] at hhead
  | cons d kept =>
    rw [hkept] at hhead hprefix
    obtain rfl : d = q := by simpa using hhead
    have hsub := (List.cons_prefix_cons.1 hprefix).2.subset
    exact .quote hq fun hmem ↦ hinner (hsub hmem)

/-- What is left of the last token of a row that is trimmed at the end makes a row. -/
theorem Row.trimEnd_singleton {t : Text} (h : Row [t]) (hne : Text.trimEnd t ≠ []) :
    Row [Text.trimEnd t] := by
  cases h with
  | unclosed hopen => exact .unclosed hopen.trimEnd
  | cons hcomplete _ => exact .cons (hcomplete.trimEnd hne) .nil

/-- **A joined row that is trimmed at the end is a joined row**, and each of its tokens starts as a
token of the first row does. -/
theorem Row.exists_trimEnd_join {ts : List Text} (h : Row ts) :
    ∃ us, Row us ∧ Text.trimEnd (join ts) = join us ∧ ∀ u ∈ us, ∃ t ∈ ts, u.head? = t.head? := by
  -- from the end: the last token keeps something, or it is gone and the one before it is the last
  induction ts using List.reverseRecOn with
  | nil => exact ⟨[], .nil, rfl, by simp⟩
  | append_singleton ts t ih =>
    by_cases hend : Text.trimEnd t = []
    · obtain ⟨us, hus, heq, hheads⟩ := ih h.of_append_left
      refine ⟨us, hus, ?_, fun u hu ↦ ?_⟩
      · rcases eq_or_ne ts [] with rfl | hts
        · rw [List.nil_append, join_singleton, hend, ← heq]
          rfl
        · -- the token is gone, and the separator before it with it
          have hgone : Text.trimEnd (separator :: t) = [] :=
            Text.trimEnd_cons_of_eq_nil separator hend
          rw [join_concat t hts, Text.trimEnd_append_of_eq_nil _ hgone, heq]
      · obtain ⟨v, hv, hhead⟩ := hheads u hu
        exact ⟨v, List.mem_append_left _ hv, hhead⟩
    · have hlast : Row [Text.trimEnd t] := h.of_append_right.trimEnd_singleton hend
      refine ⟨ts ++ [Text.trimEnd t], .append (h.isComplete_of_append (by simp)) hlast, ?_,
        fun u hu ↦ ?_⟩
      · rcases eq_or_ne ts [] with rfl | hts
        · rw [List.nil_append, List.nil_append, join_singleton, join_singleton]
        · have hkept : Text.trimEnd (separator :: t) = separator :: Text.trimEnd t :=
            Text.trimEnd_cons_of_ne_nil separator hend
          rw [join_concat t hts, join_concat _ hts,
            Text.trimEnd_append_of_ne_nil _ (by simp [hkept]), hkept]
      · rcases List.mem_append.1 hu with hu | hu
        · exact ⟨u, List.mem_append_left _ hu, rfl⟩
        · obtain rfl := List.mem_singleton.1 hu
          exact ⟨t, by simp, head?_trimEnd_of_ne_nil hend⟩

end CommandScript.Token
