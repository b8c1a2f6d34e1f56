import CommandScript.Text.Columns
import Mathlib.Algebra.GroupWithZero.Nat
import Mathlib.Data.List.Basic

/-!
# Columns of texts

The columns of a text are counted from its start on, and what has gone before matters in one place
at most, where a selector may widen the last character (`columnsAfter_eq_or`). So the columns of a
text that is cut where no joiner stands are those of its parts, but for that place
(`exists_columnsAfter_append`).

The clusters of a text are a cut of it (`flatMap_text_clusters`) and take its columns, unless it
begins with a joiner: that joins nothing to nothing, and where columns are counted the character
after it is passed over, while a cluster passes over no first character (`sum_columns_clusters`).
-/
namespace CommandScript.Text

/-! ### Counting columns -/

section Columns

variable (last : Option Char) {c : Char} (rest : Text)

theorem columnsAfter_joiner_cons_cons (d : Char) :
    columnsAfter last (joiner :: d :: rest) = columnsAfter last rest := by
  rw [columnsAfter.eq_def]
  exact if_pos rfl

theorem columnsAfter_pictureSelector_cons :
    columnsAfter last (pictureSelector :: rest) =
      selectorColumns last + columnsAfter none rest := by
  rw [columnsAfter.eq_def]
  exact (if_neg (by decide)).trans (if_pos rfl)

/-- Any other character is like that of no columns, or one to widen. -/
theorem columnsAfter_cons (hjoiner : c ≠ joiner) (hselector : c ≠ pictureSelector) :
    columnsAfter last (c :: rest) =
      charColumns c + columnsAfter (if charColumns c = 0 then last else some c) rest := by
  rw [columnsAfter.eq_def]
  simp only [hjoiner, hselector, if_false]
  split
  · next hzero => rw [hzero, Nat.zero_add]
  · rfl

end Columns

/-- A character counts for what comes after it in one place at most: before the first selector. -/
theorem columnsAfter_eq_or (last : Option Char) (t : Text) :
    columnsAfter last t = columnsAfter none t ∨
      columnsAfter last t = columnsAfter none t + selectorColumns last := by
  fun_induction columnsAfter last t with
  | case1 | case2 => exact .inl rfl
  | case3 last d t ih => rwa [columnsAfter_joiner_cons_cons]
  | case4 last t =>
    rw [columnsAfter_pictureSelector_cons, Nat.add_comm]
    exact .inr (congrArg (· + _) (Nat.zero_add _).symm)
  | case5 last c t hjoiner hselector hzero ih =>
    rwa [columnsAfter_cons _ _ hjoiner hselector, if_pos hzero, hzero, Nat.zero_add]
  | case6 last c t hjoiner hselector hzero =>
    rw [columnsAfter_cons _ _ hjoiner hselector, if_neg hzero]
    exact .inl rfl

theorem columnsAfter_none_le (last : Option Char) (t : Text) :
    columnsAfter none t ≤ columnsAfter last t := by
  rcases columnsAfter_eq_or last t with h | h <;> omega

/-- A character that no selector widens counts for nothing after it. -/
theorem columnsAfter_of_selectorColumns_eq_zero {last : Option Char} (h : selectorColumns last = 0)
    (t : Text) : columnsAfter last t = columnsAfter none t := by
  rcases columnsAfter_eq_or last t with hsame | hsame <;> omega

/-- A first part of a text takes no more columns than the text. -/
theorem columnsAfter_le_append (last : Option Char) (t rest : Text) :
    columnsAfter last t ≤ columnsAfter last (t ++ rest) := by
  fun_induction columnsAfter last t with
  | case1 | case2 => exact Nat.zero_le _
  | case3 last d t ih =>
    rw [List.cons_append, List.cons_append, columnsAfter_joiner_cons_cons]
    exact ih
  | case4 last t _ ih =>
    rw [List.cons_append, columnsAfter_pictureSelector_cons]
    exact Nat.add_le_add_left ih _
  | case5 last c t hjoiner hselector hzero ih =>
    rw [List.cons_append, columnsAfter_cons _ _ hjoiner hselector, if_pos hzero, hzero,
      Nat.zero_add]
    exact ih
  | case6 last c t hjoiner hselector hzero ih =>
    rw [List.cons_append, columnsAfter_cons _ _ hjoiner hselector, if_neg hzero]
    exact Nat.add_le_add_left ih _

theorem getLast?_ne_of_cons {c d : Char} {t : Text} (h : (c :: t).getLast? ≠ some d) :
    t.getLast? ≠ some d := by
  cases t with
  | nil => simp
  | cons e t => simpa using h

/-- The columns of a text that does not end with a joiner, before another one. -/
theorem exists_columnsAfter_append (last : Option Char) {t : Text}
    (h : t.getLast? ≠ some joiner) :
    ∃ last', ∀ rest, columnsAfter last (t ++ rest) =
      columnsAfter last t + columnsAfter last' rest := by
  fun_induction columnsAfter last t with
  | case1 last => exact ⟨last, fun rest ↦ (Nat.zero_add _).symm⟩
  | case2 last => exact absurd rfl h
  | case3 last d t ih =>
    obtain ⟨last', hlast'⟩ := ih (getLast?_ne_of_cons (getLast?_ne_of_cons h))
    refine ⟨last', fun rest ↦ ?_⟩
    rw [List.cons_append, List.cons_append, columnsAfter_joiner_cons_cons]
    exact hlast' rest
  | case4 last t _ ih =>
    obtain ⟨last', hlast'⟩ := ih (getLast?_ne_of_cons h)
    refine ⟨last', fun rest ↦ ?_⟩
    rw [List.cons_append, columnsAfter_pictureSelector_cons, hlast', Nat.add_assoc]
  | case5 last c t hjoiner hselector hzero ih =>
    obtain ⟨last', hlast'⟩ := ih (getLast?_ne_of_cons h)
    refine ⟨last', fun rest ↦ ?_⟩
    rw [List.cons_append, columnsAfter_cons _ _ hjoiner hselector, if_pos hzero, hzero,
      Nat.zero_add, hlast']
  | case6 last c t hjoiner hselector hzero ih =>
    obtain ⟨last', hlast'⟩ := ih (getLast?_ne_of_cons h)
    refine ⟨last', fun rest ↦ ?_⟩
    rw [List.cons_append, columnsAfter_cons _ _ hjoiner hselector, if_neg hzero, hlast',
      Nat.add_assoc]

/-! ### Clusters -/

/-- The columns of a cluster under way and of what comes after it. -/
theorem sum_columns_clustersAfter (under : Cluster) (last : Option Char) (t : Text) :
    ((clustersAfter under last t).map Cluster.columns).sum =
      under.columns + columnsAfter last t := by
  fun_induction clustersAfter under last t with
  | case1 => simp [columnsAfter]
  | case2 => simp [columnsAfter]
  | case3 under last d t ih => rw [ih, columnsAfter_joiner_cons_cons]
  | case4 under last t _ ih =>
    have hwidened : columnsAfter (if selectorColumns last = 0 then last else none) t =
        columnsAfter none t := by
      split
      · next hzero => exact columnsAfter_of_selectorColumns_eq_zero hzero t
      · rfl
    rw [ih, columnsAfter_pictureSelector_cons, hwidened, Nat.add_assoc]
  | case5 under last c t hjoiner hselector hzero ih =>
    rw [ih, columnsAfter_cons _ _ hjoiner hselector, if_pos hzero, hzero, Nat.zero_add]
  | case6 under last c t hjoiner hselector hzero ih =>
    rw [List.map_cons, List.sum_cons, ih, columnsAfter_cons _ _ hjoiner hselector, if_neg hzero]

/-- **The clusters of a text take its columns**, unless it begins with a joiner. -/
theorem sum_columns_clusters {t : Text} (h : t.head? ≠ some joiner) :
    ((clusters t).map Cluster.columns).sum = columns t := by
  cases t with
  | nil => rfl
  | cons c t =>
    have hjoiner : c ≠ joiner := by simpa using h
    rw [clusters, sum_columns_clustersAfter, columns]
    by_cases hselector : c = pictureSelector
    · have hzero : charColumns pictureSelector = 0 := by decide
      rw [hselector, columnsAfter_pictureSelector_cons, if_pos hzero, hzero]
      rfl
    · rw [columnsAfter_cons _ _ hjoiner hselector]

/-- The clusters of a text are a cut of it into texts that are not empty. -/
theorem flatMap_text_clustersAfter (under : Cluster) (last : Option Char) (t : Text) :
    (clustersAfter under last t).flatMap Cluster.text = under.text ++ t := by
  fun_induction clustersAfter under last t with
  | case1 | case2 => simp
  | case3 _ _ _ _ ih | case4 _ _ _ _ ih | case5 _ _ _ _ _ _ _ ih => simp [ih]
  | case6 _ _ _ _ _ _ _ ih => simp [ih]

theorem ne_nil_of_mem_clustersAfter {under : Cluster} {last : Option Char} {t : Text}
    (hunder : under.text ≠ []) {cluster : Cluster} (h : cluster ∈ clustersAfter under last t) :
    cluster.text ≠ [] := by
  fun_induction clustersAfter under last t with
  | case1 =>
    rw [List.mem_singleton.1 h]
    exact hunder
  | case2 =>
    rw [List.mem_singleton.1 h]
    simp
  | case3 _ _ _ _ ih | case4 _ _ _ _ ih | case5 _ _ _ _ _ _ _ ih => exact ih (by simp) h
  | case6 _ _ _ _ _ _ _ ih =>
    rcases List.mem_cons.1 h with rfl | h
    · exact hunder
    · exact ih (by simp) h

theorem flatMap_text_clusters (t : Text) : (clusters t).flatMap Cluster.text = t := by
  cases t with
  | nil => rfl
  | cons c t => exact flatMap_text_clustersAfter _ _ _

theorem ne_nil_of_mem_clusters {t : Text} {cluster : Cluster} (h : cluster ∈ clusters t) :
    cluster.text ≠ [] := by
  cases t with
  | nil => cases h
  | cons c t => exact ne_nil_of_mem_clustersAfter (by simp) h

/-- What is taken of clusters is a first part of their text. -/
theorem takeClusters_prefix (n : ℕ) (cs : List Cluster) :
    takeClusters n cs <+: cs.flatMap Cluster.text := by
  induction cs generalizing n with
  | nil => exact List.nil_prefix
  | cons c cs ih =>
    rw [takeClusters, List.flatMap_cons]
    split
    · exact (List.prefix_append_right_inj _).2 (ih _)
    · exact List.nil_prefix

/-- Clusters that are taken as a whole fit. -/
theorem sum_columns_le_of_takeClusters {n : ℕ} {cs : List Cluster}
    (hne : ∀ c ∈ cs, c.text ≠ []) (h : takeClusters n cs = cs.flatMap Cluster.text) :
    (cs.map Cluster.columns).sum ≤ n := by
  induction cs generalizing n with
  | nil => exact Nat.zero_le n
  | cons c cs ih =>
    rw [takeClusters, List.flatMap_cons] at h
    split at h
    · next hle =>
      have hrest := ih (fun c hc ↦ hne c (List.mem_cons_of_mem _ hc)) (List.append_cancel_left h)
      rw [List.map_cons, List.sum_cons]
      omega
    · -- a cluster that does not fit would have to be empty
      exact absurd (List.append_eq_nil_iff.1 h.symm).1 (hne c List.mem_cons_self)

theorem takeColumns_prefix_self (n : ℕ) (t : Text) : takeColumns n t <+: t := by
  have hbegins := takeClusters_prefix n (clusters t)
  rwa [flatMap_text_clusters] at hbegins

/-- A text that begins with no joiner and is taken as a whole fits. -/
theorem columns_le_of_takeColumns {n : ℕ} {t : Text} (hjoiner : t.head? ≠ some joiner)
    (h : takeColumns n t = t) : columns t ≤ n := by
  rw [← sum_columns_clusters hjoiner]
  refine sum_columns_le_of_takeClusters (fun c hc ↦ ne_nil_of_mem_clusters hc) ?_
  rw [flatMap_text_clusters]
  exact h

end CommandScript.Text
