import CommandScript.Line
import CommandScript.Proofs.Trimming
import CommandScript.Text.Lines

/-!
# Physical lines and their normal forms

`LinesOf t lines` says by what a text is cut: each line runs up to and including a line feed, and
what stands after the last line feed is a line of its own when it is not empty. Every text has
exactly one such cut, `physicalLines` (`linesOf_iff`).

A line feed stands at the end of a physical line or nowhere in it, so its normal form holds none
(`Line.newline_not_mem_normalize`); a tight text without tabs is the normal form of itself followed
by a line feed (`Line.normalize_concat_newline`).
-/
namespace CommandScript

namespace Text

/-- The **lines of** a text: its pieces up to and including each line feed, and what stands after
the last one when that is not empty. -/
inductive LinesOf : Text → List Text → Prop
  /-- The empty text has no line. -/
  | nil : LinesOf [] []
  /-- A text without a line feed is one line. -/
  | last {t : Text} (hne : t ≠ []) (hlf : '\n' ∉ t) : LinesOf t [t]
  /-- What stands before the first line feed is a line, with it. -/
  | cons {body rest : Text} {lines : List Text} (hlf : '\n' ∉ body) (hrest : LinesOf rest lines) :
      LinesOf (body ++ '\n' :: rest) ((body ++ ['\n']) :: lines)

theorem physicalLines_newline_cons (rest : Text) :
    physicalLines ('\n' :: rest) = ['\n'] :: physicalLines rest := by
  rw [physicalLines, if_pos rfl]

/-- A line, with its line feed, before a text. -/
theorem physicalLines_append {body : Text} (rest : Text) (h : '\n' ∉ body) :
    physicalLines (body ++ '\n' :: rest) = (body ++ ['\n']) :: physicalLines rest := by
  induction body with
  | nil => exact physicalLines_newline_cons rest
  | cons c body ih =>
    rw [List.mem_cons, not_or] at h
    rw [List.cons_append, physicalLines, if_neg (Ne.symm h.1), ih h.2]
    rfl

/-- A text without a line feed. -/
theorem physicalLines_of_not_mem {t : Text} (hne : t ≠ []) (h : '\n' ∉ t) :
    physicalLines t = [t] := by
  induction t with
  | nil => exact absurd rfl hne
  | cons c rest ih =>
    rw [List.mem_cons, not_or] at h
    rw [physicalLines, if_neg (Ne.symm h.1)]
    rcases eq_or_ne rest [] with rfl | hrest
    · rfl
    · rw [ih hrest h.2]

theorem linesOf_physicalLines (t : Text) : LinesOf t (physicalLines t) := by
  induction t with
  | nil => exact .nil
  | cons c rest ih =>
    by_cases hc : c = '\n'
    · rw [hc, physicalLines_newline_cons]
      have hlf : '\n' ∉ ([] : Text) := by simp
      exact .cons hlf ih
    · rw [physicalLines, if_neg hc]
      -- the character joins the first line of the rest
      generalize physicalLines rest = lines at ih
      cases ih with
      | nil => exact .last (by simp) (by simpa using Ne.symm hc)
      | last hne hlf => exact .last (by simp) (by simp [Ne.symm hc, hlf])
      | @cons body rest lines hlf hrest =>
        have hlf' : '\n' ∉ c :: body := by simp [Ne.symm hc, hlf]
        exact .cons hlf' hrest

/-- **A text is cut into lines in one way.** -/
theorem linesOf_iff {t : Text} {lines : List Text} : LinesOf t lines ↔ lines = physicalLines t := by
  constructor
  · intro h
    induction h with
    | nil => rfl
    | last hne hlf => rw [physicalLines_of_not_mem hne hlf]
    | cons hlf _ ih => rw [physicalLines_append _ hlf, ih]
  · rintro rfl
    exact linesOf_physicalLines t

/-- A physical line is a text without a line feed, with or without one behind it. -/
theorem exists_body_of_mem_physicalLines {t line : Text} (h : line ∈ physicalLines t) :
    ∃ body, '\n' ∉ body ∧ (line = body ++ ['\n'] ∨ line = body) := by
  have hlines := linesOf_physicalLines t
  generalize physicalLines t = lines at h hlines
  induction hlines with
  | nil => simp at h
  | @last t hne hlf =>
    obtain rfl := List.mem_singleton.1 h
    exact ⟨line, hlf, .inr rfl⟩
  | @cons body rest lines hlf _ ih =>
    rcases List.mem_cons.1 h with rfl | h
    · exact ⟨body, hlf, .inl rfl⟩
    · exact ih h

/-- The lines of texts without line feeds, each with a line feed behind it. -/
theorem physicalLines_flatMap_newline {bodies : List Text} (h : ∀ body ∈ bodies, '\n' ∉ body) :
    physicalLines (bodies.flatMap (· ++ ['\n'])) = bodies.map (· ++ ['\n']) := by
  induction bodies with
  | nil => rfl
  | cons body bodies ih =>
    rw [List.flatMap_cons, List.append_assoc, List.singleton_append,
      physicalLines_append _ (h body (by simp)), ih fun b hb ↦ h b (List.mem_cons_of_mem _ hb),
      List.map_cons]

end Text

namespace Line

/-! ### Normal forms -/

theorem tight_normalize (raw : Text) : Text.Tight (normalize raw) := Text.tight_trim _

/-- A character of a normal form is a space, or it stands in the line and is no tab. -/
theorem eq_or_mem_of_mem_normalize {raw : Text} {c : Char} (h : c ∈ normalize raw) :
    c = ' ' ∨ c ∈ raw ∧ c ≠ '\t' := by
  obtain ⟨d, hd, rfl⟩ := List.mem_map.1 (Text.mem_of_mem_trim h)
  by_cases htab : d = '\t'
  · exact .inl (if_pos htab)
  · rw [if_neg htab]
    exact .inr ⟨hd, htab⟩

theorem tab_not_mem_normalize (raw : Text) : '\t' ∉ normalize raw := by
  intro h
  rcases eq_or_mem_of_mem_normalize h with h | h
  · exact absurd h (by decide)
  · exact h.2 rfl

/-- A line feed at the end of a line makes no difference. -/
theorem normalize_concat_newline (body : Text) : normalize (body ++ ['\n']) = normalize body := by
  rw [normalize, List.map_append, normalize]
  exact Text.trim_concat_of_isBlank _ rfl

/-- The normal form of a physical line holds no line feed. -/
theorem newline_not_mem_normalize {t line : Text} (h : line ∈ Text.physicalLines t) :
    '\n' ∉ normalize line := by
  obtain ⟨body, hbody, hline⟩ := Text.exists_body_of_mem_physicalLines h
  have hnormal : normalize line = normalize body := by
    rcases hline with rfl | rfl
    · exact normalize_concat_newline body
    · rfl
  rw [hnormal]
  intro hmem
  rcases eq_or_mem_of_mem_normalize hmem with h | h
  · exact absurd h (by decide)
  · exact hbody h.1

/-- A tight text without tabs is its own normal form. -/
theorem normalize_eq_self {t : Text} (ht : Text.Tight t) (htab : '\t' ∉ t) : normalize t = t := by
  have hmap : (t.map fun c ↦ if c = '\t' then ' ' else c) = t := by
    conv_rhs => rw [← List.map_id t]
    refine List.map_congr_left fun c hc ↦ ?_
    have hne : c ≠ '\t' := fun h ↦ htab (h ▸ hc)
    rw [if_neg hne, id]
  rw [normalize, hmap, ht.trim_eq]

end Line

end CommandScript
