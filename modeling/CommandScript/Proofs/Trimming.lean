import CommandScript.Text.Blank
import Mathlib.Data.List.DropRight

/-!
# Trimmed texts

A text is **tight** when no blank stands at either of its ends. Trimming makes a text tight
(`tight_trim`) and leaves a tight text as it is (`Tight.trim_eq`). The other statements say what
`trimEnd` does to a text that is put together from two: either the second part keeps something, and
the first is not touched, or the second part is gone, and the first is trimmed in its turn.

The **fields** of a text have its characters but for the separator, which none of them holds.
-/
namespace CommandScript.Text

/-- A text is **tight** when no blank stands at either of its ends. -/
structure Tight (t : Text) : Prop where
  /-- No blank stands at the start. -/
  head : ∀ c ∈ t.head?, isBlank c = false
  /-- No blank stands at the end. -/
  last : ∀ c ∈ t.getLast?, isBlank c = false

/-! ### Trimming at the end -/

theorem trimEnd_prefix_self (t : Text) : trimEnd t <+: t := List.rdropWhile_prefix isBlank t

/-- What is missing of a text that is trimmed at its end are blanks. -/
theorem exists_trimEnd_append (t : Text) :
    ∃ blanks, (∀ c ∈ blanks, isBlank c = true) ∧ trimEnd t ++ blanks = t := by
  refine ⟨(t.reverse.takeWhile isBlank).reverse, fun c hc ↦ ?_, ?_⟩
  · exact List.mem_takeWhile_imp (List.mem_reverse.1 hc)
  · rw [trimEnd, ← List.reverse_append, List.takeWhile_append_dropWhile, List.reverse_reverse]

theorem trimEnd_concat_of_isBlank {c : Char} (t : Text) (h : isBlank c = true) :
    trimEnd (t ++ [c]) = trimEnd t :=
  List.rdropWhile_concat_pos isBlank t c h

/-- A text without a blank at its end is not trimmed there. -/
theorem trimEnd_eq_self {t : Text} (h : ∀ c ∈ t.getLast?, isBlank c = false) : trimEnd t = t := by
  refine List.rdropWhile_eq_self_iff.2 fun hne ↦ ?_
  have hlast := h _ (List.getLast?_eq_some_getLast hne)
  simp [hlast]

/-- What is left of a text that is trimmed at the end has no blank there. -/
theorem isBlank_of_mem_getLast?_trimEnd {t : Text} {c : Char} (h : c ∈ (trimEnd t).getLast?) :
    isBlank c = false := by
  have hne : trimEnd t ≠ [] := by
    rintro hnil
    simp [hnil] at h
  rw [List.getLast?_eq_some_getLast hne, Option.mem_some_iff] at h
  have hlast : ¬isBlank ((trimEnd t).getLast hne) = true := List.rdropWhile_last_not isBlank t hne
  rw [← h]
  simpa using hlast

/-- The second of two texts keeps something: the first is not touched. -/
theorem trimEnd_append_of_ne_nil (s : Text) {t : Text} (h : trimEnd t ≠ []) :
    trimEnd (s ++ t) = s ++ trimEnd t := by
  induction t using List.reverseRecOn with
  | nil => exact absurd rfl h
  | append_singleton t c ih =>
    rw [← List.append_assoc]
    by_cases hc : isBlank c = true
    · rw [trimEnd_concat_of_isBlank t hc] at h ⊢
      rw [trimEnd_concat_of_isBlank _ hc, ih h]
    · rw [trimEnd_eq_self (by simpa using hc), trimEnd_eq_self (by simpa using hc),
        List.append_assoc]

/-- The second of two texts is gone: the first is trimmed in its turn. -/
theorem trimEnd_append_of_eq_nil (s : Text) {t : Text} (h : trimEnd t = []) :
    trimEnd (s ++ t) = trimEnd s := by
  induction t using List.reverseRecOn with
  | nil => rw [List.append_nil]
  | append_singleton t c ih =>
    have hc : isBlank c = true := List.rdropWhile_eq_nil_iff.1 h c (by simp)
    rw [trimEnd_concat_of_isBlank t hc] at h
    rw [← List.append_assoc, trimEnd_concat_of_isBlank _ hc, ih h]

/-- A character before a text that keeps something is not touched. -/
theorem trimEnd_cons_of_ne_nil (c : Char) {t : Text} (h : trimEnd t ≠ []) :
    trimEnd (c :: t) = c :: trimEnd t :=
  trimEnd_append_of_ne_nil [c] h

/-- A character before a text that is gone is trimmed in its turn. -/
theorem trimEnd_cons_of_eq_nil (c : Char) {t : Text} (h : trimEnd t = []) :
    trimEnd (c :: t) = trimEnd [c] :=
  trimEnd_append_of_eq_nil [c] h

/-- A text that starts with no blank keeps its first character. -/
theorem head?_trimEnd {t : Text} {c : Char} (h : t.head? = some c) (hc : isBlank c = false) :
    (trimEnd t).head? = some c := by
  obtain ⟨rest, rfl⟩ : ∃ rest, t = c :: rest := by
    cases t with
    | nil => simp at h
    | cons d rest => exact ⟨rest, by simpa using h⟩
  by_cases hrest : trimEnd rest = []
  · have hc' : trimEnd [c] = [c] := trimEnd_eq_self (by simpa using hc)
    rw [trimEnd_cons_of_eq_nil c hrest, hc']
    rfl
  · rw [trimEnd_cons_of_ne_nil c hrest]
    rfl

/-! ### Trimming at both ends -/

/-- What a text begins with once its first characters are dropped is none of those. -/
theorem eq_false_of_mem_head?_dropWhile {p : Char → Bool} {t : Text} {c : Char}
    (h : c ∈ (t.dropWhile p).head?) : p c = false := by
  have hnot := List.head?_dropWhile_not p t
  rw [Option.mem_def.1 h] at hnot
  simpa using hnot

/-- Trimming makes a text tight. -/
theorem tight_trim (t : Text) : Tight (trim t) := by
  constructor
  · exact fun c hc ↦ eq_false_of_mem_head?_dropWhile hc
  · intro c hc
    refine isBlank_of_mem_getLast?_trimEnd (t := t) (Option.mem_def.2 ?_)
    obtain ⟨cut, hcut⟩ := List.dropWhile_suffix (l := trimEnd t) isBlank
    rw [← hcut, List.getLast?_append,
      show ((trimEnd t).dropWhile isBlank).getLast? = some c from hc]
    rfl

/-- A text that starts with no blank is trimmed at its end only. -/
theorem trim_eq_trimEnd {t : Text} (h : ∀ c ∈ t.head?, isBlank c = false) :
    trim t = trimEnd t := by
  obtain ⟨rest, hrest⟩ := trimEnd_prefix_self t
  cases hend : trimEnd t with
  | nil => rw [trim, hend]; rfl
  | cons c kept =>
    have hhead : c ∈ t.head? := by
      rw [← hrest, hend]
      rfl
    have hc : isBlank c = false := h c hhead
    rw [trim, hend, trimStart, List.dropWhile_cons_of_neg (by simp [hc])]

theorem Tight.trim_eq {t : Text} (h : Tight t) : trim t = t := by
  rw [trim_eq_trimEnd h.head, trimEnd_eq_self h.last]

theorem trim_concat_of_isBlank {c : Char} (t : Text) (h : isBlank c = true) :
    trim (t ++ [c]) = trim t := by
  rw [trim, trimEnd_concat_of_isBlank t h, trim]

/-- Blanks at the start of a text are trimmed. -/
theorem trim_blanks_append {blanks : Text} (t : Text) (h : ∀ c ∈ blanks, isBlank c = true) :
    trim (blanks ++ t) = trim t := by
  have hblanks : trimEnd blanks = [] := List.rdropWhile_eq_nil_iff.2 h
  rcases eq_or_ne (trimEnd t) [] with hnil | hne
  · rw [trim, trim, trimEnd_append_of_eq_nil blanks hnil, hblanks, hnil]
  · rw [trim, trim, trimEnd_append_of_ne_nil blanks hne, trimStart,
      List.dropWhile_append_of_pos h, trimStart]

/-- Blanks at the end of a text are trimmed. -/
theorem trim_append_blanks (t : Text) {blanks : Text} (h : ∀ c ∈ blanks, isBlank c = true) :
    trim (t ++ blanks) = trim t := by
  rw [trim, trimEnd_append_of_eq_nil t (List.rdropWhile_eq_nil_iff.2 h), trim]

/-- A text is trimmed at the start in its first part and at the end in its second, when both keep
something. -/
theorem trim_append_of_ne_nil {s t : Text} (hs : trimStart s ≠ []) (ht : trimEnd t ≠ []) :
    trim (s ++ t) = trimStart s ++ trimEnd t := by
  rw [trim, trimEnd_append_of_ne_nil s ht, trimStart, List.dropWhile_append, trimStart]
  rw [trimStart] at hs
  simp [hs]

theorem mem_of_mem_trim {t : Text} {c : Char} (h : c ∈ trim t) : c ∈ t :=
  (trimEnd_prefix_self t).subset ((List.dropWhile_suffix _).subset h)

/-! ### Fields -/

theorem fields_ne_nil (separator : Char) (t : Text) : fields separator t ≠ [] := by
  cases t with
  | nil => simp [fields]
  | cons c rest =>
    rw [fields]
    split
    · simp
    · split <;> simp

/-- A text without the separator is its only field. -/
theorem fields_of_not_mem {separator : Char} {t : Text} (h : separator ∉ t) :
    fields separator t = [t] := by
  induction t with
  | nil => rfl
  | cons c rest ih =>
    rw [List.mem_cons, not_or] at h
    rw [fields, if_neg (Ne.symm h.1), ih h.2]

/-- No field holds the separator. -/
theorem not_mem_of_mem_fields {separator : Char} {t field : Text}
    (h : field ∈ fields separator t) : separator ∉ field := by
  induction t generalizing field with
  | nil => simp_all [fields]
  | cons c rest ih =>
    rw [fields] at h
    split at h
    · rcases List.mem_cons.1 h with rfl | h
      · simp
      · exact ih h
    · next hc =>
      split at h
      · simp_all [Ne.symm hc]
      · next first others heq =>
        rcases List.mem_cons.1 h with rfl | h
        · have hfirst := ih (heq ▸ List.mem_cons_self)
          simp [Ne.symm hc, hfirst]
        · exact ih (heq ▸ List.mem_cons_of_mem first h)

/-- The fields, put together, are the text without its separators. -/
theorem flatten_fields (separator : Char) (t : Text) :
    (fields separator t).flatten = t.filter (· ≠ separator) := by
  induction t with
  | nil => rfl
  | cons c rest ih =>
    rw [fields]
    split
    · next hc => rw [List.flatten_cons, List.nil_append, ih, List.filter_cons_of_neg (by simpa)]
    · next hc =>
      rw [List.filter_cons_of_pos (by simpa), ← ih]
      split
      · next hnil => exact absurd hnil (fields_ne_nil separator rest)
      · next first others heq => rw [heq, List.flatten_cons, List.flatten_cons, List.cons_append]

/-- The fields of a text have its characters. -/
theorem mem_of_mem_fields {separator c : Char} {t field : Text}
    (hfield : field ∈ fields separator t) (h : c ∈ field) : c ∈ t := by
  have hflatten : c ∈ (fields separator t).flatten := List.mem_flatten.2 ⟨field, hfield, h⟩
  rw [flatten_fields] at hflatten
  exact List.mem_of_mem_filter hflatten

end CommandScript.Text
