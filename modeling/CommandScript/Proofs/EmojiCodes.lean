import CommandScript.Console.Emoji
import Mathlib.Data.List.Basic

/-!
# Texts with emoji codes

A text is shown as it stands, or it holds a code that is shown and has lost colons by that
(`showEmoji_eq_or_count_lt`). That is so whatever pictures a console knows, since no picture holds a
colon, and of some pictures that are as long as their codes the length would not tell.
-/
namespace CommandScript.Console

theorem colon_not_mem_snd_splitForm (inner : Text) : ':' ∉ (splitForm inner).2 := by
  rw [splitForm]
  split
  · next split hsplit =>
    obtain ⟨form, hform, hname⟩ := List.exists_of_findSome?_eq_some hsplit
    obtain ⟨name, -, rfl⟩ := Option.map_eq_some_iff.1 hname
    have hforms : ∀ form ∈ forms, ':' ≠ form.2 := by decide
    exact fun hcolon ↦ hforms form hform (List.mem_singleton.1 hcolon)
  · exact List.not_mem_nil

/-- A code is shown as it stands, or without a colon. -/
theorem showCode_eq_or_colon_not_mem (pictures : Pictures) (inner : Text) :
    showCode pictures inner = ':' :: inner ++ [':'] ∨ ':' ∉ showCode pictures inner := by
  rw [showCode]
  dsimp only
  split
  · next picture hpicture =>
    right
    rw [List.mem_append, not_or]
    exact ⟨pictures.colon_not_mem hpicture, colon_not_mem_snd_splitForm inner⟩
  · exact .inl rfl

/-- **A text is shown as it stands, or with fewer colons.** -/
theorem showEmoji_eq_or_count_lt (pictures : Pictures) (t : Text) :
    showEmoji pictures t = t ∨ (showEmoji pictures t).count ':' < t.count ':' := by
  fun_induction showEmoji pictures t with
  | case1 => exact .inl rfl
  | case2 rest after hdrop hlt ih =>
    have hrest : rest = rest.takeWhile withinCode ++ ':' :: after := by
      rw [← hdrop, List.takeWhile_append_dropWhile]
    have hcount := congrArg (List.count ':') hrest
    rw [List.count_append, List.count_cons_self] at hcount
    -- the code and the text behind it are shown as they stand, or one of them loses colons
    rcases showCode_eq_or_colon_not_mem pictures (rest.takeWhile withinCode) with hcode | hcode
    · rcases ih with ih | ih
      · left
        rw [hcode, ih]
        conv_rhs => rw [hrest]
        simp
      · right
        rw [hcode, List.count_append, List.count_append, List.count_cons_self,
          List.count_cons_self, List.count_nil, List.count_cons_self]
        omega
    · right
      have hle : (showEmoji pictures after).count ':' ≤ after.count ':' := by
        rcases ih with ih | ih
        · exact Nat.le_of_eq (congrArg _ ih)
        · exact Nat.le_of_lt ih
      rw [List.count_append, List.count_eq_zero_of_not_mem hcode, List.count_cons_self]
      omega
  | case3 rest _ ih | case4 c rest _ ih =>
    rcases ih with ih | ih
    · exact .inl (by rw [ih])
    · right
      rw [List.count_cons, List.count_cons]
      exact Nat.add_lt_add_right ih _

end CommandScript.Console
