import CommandScript.Proofs.TokenRows

/-!
# The grammar of a line

A line is spaces, and then tokens, each with a number of spaces behind it. Which tokens may stand
where is said by `Fits`, without looking for the end of any of them: a word needs a space behind it
unless the line ends there, a closed quote needs none, and an unclosed quote is the end of the line.

* `split_layOut`: whatever is laid out by these rules splits into its tokens again, so a line is
  laid out in no more than one way as far as its tokens go.
* `parses_split`: every line is laid out by these rules, from the tokens that it splits into.
-/
namespace CommandScript.Token

/-- A number of spaces. -/
def spaces (n : ℕ) : Text := List.replicate n separator

/-- A line **laid out**: the spaces at its start, and then each token before its number of
spaces. -/
def layOut (lead : ℕ) (cells : List (Text × ℕ)) : Text :=
  spaces lead ++ cells.flatMap fun cell ↦ cell.1 ++ spaces cell.2

/-- Tokens, each with the number of spaces behind it, that **fit** together to the end of a line. -/
inductive Fits : List (Text × ℕ) → Prop
  /-- The line ends. -/
  | nil : Fits []
  /-- A word, with a space behind it or at the end of the line. -/
  | word {c : Char} {rest : Text} {n : ℕ} {cells : List (Text × ℕ)} (hc : isQuote c = false)
      (hsep : separator ∉ c :: rest) (hend : 0 < n ∨ cells = []) (hcells : Fits cells) :
      Fits ((c :: rest, n) :: cells)
  /-- A closed quote: the next token may follow at once. -/
  | quoted {q : Char} {inner : Text} {n : ℕ} {cells : List (Text × ℕ)} (hq : isQuote q = true)
      (hinner : q ∉ inner) (hcells : Fits cells) : Fits ((q :: inner ++ [q], n) :: cells)
  /-- An unclosed quote: it takes in all that is left of the line. -/
  | unclosed {q : Char} {inner : Text} (hq : isQuote q = true) (hinner : q ∉ inner) :
      Fits [(q :: inner, 0)]

/-- A line **parses** into tokens when it is laid out from them. -/
def Parses (line : Text) (tokens : List Text) : Prop :=
  ∃ lead cells, Fits cells ∧ line = layOut lead cells ∧ tokens = cells.map Prod.fst

/-! ### Lines laid out -/

@[simp] theorem layOut_zero_nil : layOut 0 [] = [] := rfl

theorem layOut_succ (lead : ℕ) (cells : List (Text × ℕ)) :
    layOut (lead + 1) cells = separator :: layOut lead cells := rfl

/-- The spaces behind the first token lead the line that is left. -/
theorem layOut_zero_cons (t : Text) (n : ℕ) (cells : List (Text × ℕ)) :
    layOut 0 ((t, n) :: cells) = t ++ layOut n cells := by
  rw [layOut, List.flatMap_cons, List.append_assoc, layOut]
  rfl

/-- What is left behind a word starts with a space, when it is not empty. -/
theorem eq_separator_of_mem_head?_layOut {n : ℕ} {cells : List (Text × ℕ)}
    (hend : 0 < n ∨ cells = []) : ∀ d ∈ (layOut n cells).head?, d = separator := by
  cases n with
  | zero =>
    obtain rfl := hend.resolve_left (Nat.lt_irrefl 0)
    simp
  | succ n =>
    rintro d ⟨⟩
    rfl

/-- Tokens that fit start with no space. -/
theorem Fits.ne_separator_of_mem_head?_layOut {cells : List (Text × ℕ)} (h : Fits cells) :
    ∀ d ∈ (layOut 0 cells).head?, d ≠ separator := by
  cases h with
  | nil => simp
  | word hc hsep _ _ =>
    rw [layOut_zero_cons]
    rintro d ⟨⟩ rfl
    exact hsep (List.mem_cons_self ..)
  | quoted hq _ _ =>
    rw [layOut_zero_cons]
    rintro d ⟨⟩
    exact ne_separator_of_isQuote hq
  | unclosed hq _ =>
    rw [layOut_zero_cons]
    rintro d ⟨⟩
    exact ne_separator_of_isQuote hq

/-! ### What is laid out splits into its tokens -/

/-- Spaces at the start of a line make no difference. -/
theorem split_layOut_eq_split_layOut_zero (lead : ℕ) (cells : List (Text × ℕ)) :
    split (layOut lead cells) = split (layOut 0 cells) := by
  induction lead with
  | zero => rfl
  | succ lead ih => rw [layOut_succ, split_separator_cons, ih]

/-- **What is laid out splits into its tokens.** -/
theorem Fits.split_layOut {cells : List (Text × ℕ)} (h : Fits cells) (lead : ℕ) :
    split (layOut lead cells) = cells.map Prod.fst := by
  induction h generalizing lead with
  | nil => rw [split_layOut_eq_split_layOut_zero, layOut_zero_nil, split_nil, List.map_nil]
  | word hc hsep hend _ ih =>
    rw [split_layOut_eq_split_layOut_zero, layOut_zero_cons,
      split_word_append hc hsep (eq_separator_of_mem_head?_layOut hend), ih, List.map_cons]
  | quoted hq hinner _ ih =>
    rw [split_layOut_eq_split_layOut_zero, layOut_zero_cons, split_quoted_append _ hq hinner, ih,
      List.map_cons]
  | @unclosed q inner hq hinner =>
    have hopen : IsUnclosed (q :: inner) := .quote hq hinner
    rw [split_layOut_eq_split_layOut_zero, layOut_zero_cons, layOut_zero_nil, List.append_nil,
      hopen.split_eq, List.map_singleton]

/-! ### Every line is laid out from its tokens -/

/-- One more space at the start of a line. -/
theorem Parses.separator_cons {line : Text} {tokens : List Text} (h : Parses line tokens) :
    Parses (separator :: line) tokens := by
  obtain ⟨lead, cells, hfits, rfl, rfl⟩ := h
  exact ⟨lead + 1, cells, hfits, rfl, rfl⟩

/-- A closed quote before a line. -/
theorem Parses.quoted_append {q : Char} {inner line : Text} {tokens : List Text}
    (h : Parses line tokens) (hq : isQuote q = true) (hinner : q ∉ inner) :
    Parses (q :: inner ++ [q] ++ line) ((q :: inner ++ [q]) :: tokens) := by
  obtain ⟨lead, cells, hfits, rfl, rfl⟩ := h
  exact ⟨0, _, hfits.quoted hq hinner, (layOut_zero_cons _ lead cells).symm, rfl⟩

/-- A word before a line that starts with a space or is empty. -/
theorem Parses.word_append {c : Char} {rest line : Text} {tokens : List Text}
    (h : Parses line tokens) (hc : isQuote c = false) (hsep : separator ∉ c :: rest)
    (hline : ∀ d ∈ line.head?, d = separator) :
    Parses (c :: rest ++ line) ((c :: rest) :: tokens) := by
  obtain ⟨lead, cells, hfits, rfl, rfl⟩ := h
  have hend : 0 < lead ∨ cells = [] := by
    refine (Nat.eq_zero_or_pos lead).symm.imp_right ?_
    rintro rfl
    -- with no space at the start a first token would stand there, and it starts with no space
    have hnone : layOut 0 cells = [] := by
      refine List.head?_eq_none_iff.1 (Option.eq_none_iff_forall_not_mem.2 fun d hd ↦ ?_)
      exact hfits.ne_separator_of_mem_head?_layOut d hd (hline d hd)
    have htokens := hfits.split_layOut 0
    rw [hnone, split_nil] at htokens
    exact List.map_eq_nil_iff.1 htokens.symm
  exact ⟨0, _, hfits.word hc hsep hend, (layOut_zero_cons _ lead cells).symm, rfl⟩

/-- **Every line parses** into the tokens that it splits into. -/
theorem parses_split (line : Text) : Parses line (split line) := by
  fun_induction split line with
  | case1 => exact ⟨0, [], .nil, rfl, rfl⟩
  | case2 rest ih => exact ih.separator_cons
  | case3 c rest hsep hq h =>
    have hinner : c ∉ rest := fun hmem ↦ by simpa using List.dropWhile_eq_nil_iff.1 h c hmem
    exact ⟨0, _, .unclosed hq hinner, by simp [layOut_zero_cons], rfl⟩
  | case4 c rest hsep hq close after h hlt ih =>
    obtain rfl : close = c := eq_of_mem_head?_dropWhile_bne (t := rest) close (by rw [h]; rfl)
    have hrest : close :: rest =
        close :: rest.takeWhile (· != close) ++ [close] ++ after := by
      conv_lhs => rw [← List.takeWhile_append_dropWhile (p := (· != close)) (l := rest), h]
      simp
    have hparses := ih.quoted_append hq (not_mem_takeWhile_bne close rest)
    rwa [← hrest] at hparses
  | case5 c rest hsep hq hle ih =>
    have hword : separator ∉ c :: rest.takeWhile (· != separator) := by
      rintro hmem
      rcases List.mem_cons.1 hmem with heq | hmem
      · exact hsep heq.symm
      · exact not_mem_takeWhile_bne _ _ hmem
    have hparses := ih.word_append (by simpa using hq) hword eq_of_mem_head?_dropWhile_bne
    rwa [List.cons_append, List.takeWhile_append_dropWhile] at hparses

/-- **A line splits into the tokens that its grammar gives it, and into no others.** Tokens are what
the line splits into exactly when the line is some spaces, and then the tokens, each with a number
of spaces behind it: words, each before a space or at the end; closed quotes, before anything; and
at most one unclosed quote, at the very end. -/
theorem split_eq_iff_parses (line : Text) (tokens : List Text) :
    split line = tokens ↔ Parses line tokens := by
  constructor
  · rintro rfl
    exact parses_split line
  · rintro ⟨lead, cells, hfits, rfl, rfl⟩
    exact hfits.split_layOut lead

/-- A quote within a word, a word right behind a closed quote, and a quote that is never closed. -/
example : split "a'b \"c d\"e 'f ".toList =
    ["a'b".toList, "\"c d\"".toList, "e".toList, "'f ".toList] := by cbv

end CommandScript.Token
