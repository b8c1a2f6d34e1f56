import CommandScript.Log.Configuration
import Mathlib.Data.List.Induction

/-!
# Configuring the log again and again

What the log remembers is the last configuration that was made, and this is what it goes by when it
is asked for that configuration again. But a wish for a level that is not known takes the handler
away and leaves the memory as it is. So what is remembered may have **lapsed**: some wish since then
has failed, and none for another configuration has been fulfilled.

A wish that is fulfilled leaves the handler that it names, unless its configuration has lapsed; then
it leaves none, although nothing tells so (`handler_configured_iff`). `Sound` is what every
configuring keeps: the handler is the remembered one, or there is none.
-/
namespace CommandScript.Log

/-- A **wish**: what is asked for when the log is configured. -/
structure Wish where
  /-- The name of the level. -/
  level : Text
  /-- The name of the profile. -/
  profile : Text
  deriving DecidableEq, Repr

namespace Wish

/-- What is remembered of a wish that has been fulfilled. -/
def pair (w : Wish) : Text × Text := (w.profile, Text.upper w.level)

/-- The handler that a remembered pair names, if there is its level. -/
def handlerOf? (p : Text × Text) : Option Handler :=
  (Level.ofName? p.2).map fun threshold ↦ ⟨Configuration.formOf p.1, threshold⟩

/-- The handler that a wish names: that of its profile, at its level in upper case. -/
def handler? (w : Wish) : Option Handler := handlerOf? w.pair

end Wish

namespace Configuration

/-- The log after a wish. -/
def after (c : Configuration) (w : Wish) : Configuration := (c.configure w.level w.profile).2

/-- The log after wishes, one after another. -/
def afterAll (c : Configuration) (wishes : List Wish) : Configuration := wishes.foldl after c

theorem afterAll_append (c : Configuration) (wishes others : List Wish) :
    c.afterAll (wishes ++ others) = (c.afterAll wishes).afterAll others := List.foldl_append

theorem afterAll_cons (c : Configuration) (w : Wish) (wishes : List Wish) :
    c.afterAll (w :: wishes) = (c.after w).afterAll wishes := rfl

theorem afterAll_concat (c : Configuration) (wishes : List Wish) (w : Wish) :
    c.afterAll (wishes ++ [w]) = (c.afterAll wishes).after w := c.afterAll_append wishes [w]

/-! ### One wish -/

/-- A wish for what is remembered changes nothing. -/
theorem configure_of_remembered {c : Configuration} {w : Wish} (h : c.remembered = some w.pair) :
    c.configure w.level w.profile = (.ok (), c) := if_pos h

/-- Any other wish is fulfilled if it names a handler, and otherwise takes away the one in force. -/
theorem configure_of_not_remembered {c : Configuration} {w : Wish}
    (h : c.remembered ≠ some w.pair) :
    c.configure w.level w.profile =
      match w.handler? with
      | none => (.error (Text.upper w.level), { c with handler := none })
      | some handler => (.ok (), ⟨some handler, some w.pair⟩) := by
  refine (if_neg h).trans ?_
  rw [Wish.handler?, Wish.handlerOf?, Wish.pair]
  cases Level.ofName? (Text.upper w.level) <;> rfl

/-- A wish that names a handler is remembered from then on, and no other is. -/
theorem remembered_after (c : Configuration) (w : Wish) :
    (c.after w).remembered = if w.handler?.isSome then some w.pair else c.remembered := by
  by_cases h : c.remembered = some w.pair
  · rw [after, configure_of_remembered h, h]
    split <;> rfl
  · rw [after, configure_of_not_remembered h]
    cases w.handler? <;> rfl

/-- A log whose memory is **sound**: what it remembers names a handler, which is the one in force if
there is any. -/
def Sound (c : Configuration) : Prop :=
  ∀ p ∈ c.remembered, ∃ handler, Wish.handlerOf? p = some handler ∧
    (c.handler = none ∨ c.handler = some handler)

/-- A wish that names no handler is not what a sound memory holds, so it fails and takes the handler
away. -/
theorem Sound.configure_of_none {c : Configuration} {w : Wish} (hc : c.Sound)
    (h : w.handler? = none) :
    c.configure w.level w.profile =
      (.error (Text.upper w.level), { c with handler := none }) := by
  have hnot : c.remembered ≠ some w.pair := fun hremembered ↦ by
    obtain ⟨handler, hhandler, -⟩ := hc w.pair hremembered
    rw [show Wish.handlerOf? w.pair = none from h] at hhandler
    cases hhandler
  rw [configure_of_not_remembered hnot, h]

theorem Sound.after_of_none {c : Configuration} {w : Wish} (hc : c.Sound) (h : w.handler? = none) :
    c.after w = { c with handler := none } := by
  rw [Configuration.after, hc.configure_of_none h]

/-- A wish that names a handler and is not remembered installs it. -/
theorem after_of_some {c : Configuration} {w : Wish} {handler : Handler}
    (hnot : c.remembered ≠ some w.pair) (h : w.handler? = some handler) :
    c.after w = ⟨some handler, some w.pair⟩ := by
  rw [after, configure_of_not_remembered hnot, h]

theorem after_of_remembered {c : Configuration} {w : Wish} (h : c.remembered = some w.pair) :
    c.after w = c := by
  rw [after, configure_of_remembered h]

/-- **Every wish keeps the memory sound.** -/
theorem Sound.after {c : Configuration} (hc : c.Sound) (w : Wish) : (c.after w).Sound := by
  cases hhandler : w.handler? with
  | none =>
    rw [hc.after_of_none hhandler]
    intro p hp
    obtain ⟨handler, hp, -⟩ := hc p hp
    exact ⟨handler, hp, .inl rfl⟩
  | some handler =>
    by_cases hremembered : c.remembered = some w.pair
    · rwa [after_of_remembered hremembered]
    · rw [after_of_some hremembered hhandler]
      rintro p ⟨⟩
      exact ⟨handler, hhandler, .inr rfl⟩

/-- A log that remembers nothing is sound, and so it is after any wishes. -/
theorem sound_afterAll (handler : Option Handler) (wishes : List Wish) :
    (afterAll ⟨handler, none⟩ wishes).Sound := by
  induction wishes using List.reverseRecOn with
  | nil => simp [Sound, afterAll]
  | append_singleton wishes w ih =>
    rw [afterAll_concat]
    exact ih.after w

/-! ### What has lapsed -/

/-- Whether the wishes that name a handler are all for one pair. -/
def AllFor (p : Text × Text) (wishes : List Wish) : Prop :=
  ∀ w ∈ wishes, w.handler?.isSome = true → w.pair = p

/-- Whether the last wishes that name a handler are for a pair: one of them, which the rest of the
wishes follow. -/
def LastFor (p : Text × Text) (wishes since : List Wish) : Prop :=
  ∃ before first, wishes = before ++ first :: since ∧ first.pair = p ∧ AllFor p since

/-- Whether a pair has **lapsed** by the end of some wishes: it was the last to be wished for that
names a handler, and since then there was a wish that names none. -/
def Lapsed (p : Text × Text) (wishes : List Wish) : Prop :=
  ∃ since, LastFor p wishes since ∧ ∃ w ∈ since, w.handler? = none

theorem LastFor.concat {p : Text × Text} {wishes since : List Wish} (h : LastFor p wishes since)
    {w : Wish} (hw : w.handler?.isSome = true → w.pair = p) :
    LastFor p (wishes ++ [w]) (since ++ [w]) := by
  obtain ⟨before, first, rfl, hfirst, hsince⟩ := h
  refine ⟨before, first, by simp, hfirst, fun w' hw' ↦ ?_⟩
  rcases List.mem_append.1 hw' with hmem | hmem
  · exact hsince w' hmem
  · obtain rfl := List.mem_singleton.1 hmem
    exact hw

/-- What is remembered was wished for last, of all that names a handler. -/
theorem exists_lastFor_of_remembered {handler : Option Handler} {wishes : List Wish}
    {p : Text × Text} (h : (afterAll ⟨handler, none⟩ wishes).remembered = some p) :
    ∃ since, LastFor p wishes since := by
  induction wishes using List.reverseRecOn with
  | nil => cases h
  | append_singleton wishes w ih =>
    rw [afterAll_concat, remembered_after] at h
    split at h
    · exact ⟨[], wishes, w, rfl, Option.some.inj h, by simp [AllFor]⟩
    · next hnone =>
      obtain ⟨since, hsince⟩ := ih h
      exact ⟨since ++ [w], hsince.concat fun hsome ↦ absurd hsome hnone⟩

/-- A pair stays remembered as long as no other is wished for. -/
theorem remembered_afterAll {c : Configuration} {p : Text × Text} {since : List Wish}
    (h : c.remembered = some p) (hsince : AllFor p since) :
    (c.afterAll since).remembered = some p := by
  induction since generalizing c with
  | nil => exact h
  | cons w since ih =>
    refine ih (c := c.after w) ?_ fun w' hw' ↦ hsince w' (List.mem_cons_of_mem w hw')
    rw [remembered_after]
    split
    · next hsome => exact congrArg some (hsince w List.mem_cons_self hsome)
    · exact h

/-- What names a handler and was wished for last is remembered. -/
theorem LastFor.remembered {p : Text × Text} {wishes since : List Wish}
    (h : LastFor p wishes since) (hp : (Wish.handlerOf? p).isSome = true) (c : Configuration) :
    (c.afterAll wishes).remembered = some p := by
  obtain ⟨before, first, rfl, rfl, hsince⟩ := h
  rw [afterAll_append, afterAll_cons]
  refine remembered_afterAll ?_ hsince
  rw [remembered_after]
  exact if_pos hp

/-- Without a handler there is none as long as only what is remembered is wished for. -/
theorem handler_afterAll {c : Configuration} {p : Text × Text} {since : List Wish}
    (hc : c.Sound) (hremembered : c.remembered = some p) (hsince : AllFor p since)
    (h : c.handler = none ∨ ∃ w ∈ since, w.handler? = none) :
    (c.afterAll since).handler = none := by
  induction since generalizing c with
  | nil => simpa [afterAll] using h
  | cons w since ih =>
    have hothers : AllFor p since := fun w' hw' ↦ hsince w' (List.mem_cons_of_mem w hw')
    rw [afterAll_cons]
    cases hhandler : w.handler? with
    | none =>
      rw [hc.after_of_none hhandler]
      refine ih ?_ hremembered hothers (.inl rfl)
      rw [← hc.after_of_none hhandler]
      exact hc.after w
    | some handler =>
      -- the wish is for what is remembered, so it changes nothing
      have hpair : w.pair = p := hsince w List.mem_cons_self (by rw [hhandler]; rfl)
      rw [after_of_remembered (hpair ▸ hremembered)]
      refine ih hc hremembered hothers (h.imp_right ?_)
      rintro ⟨failed, hmem, hfailed⟩
      rcases List.mem_cons.1 hmem with rfl | hmem
      · rw [hhandler] at hfailed
        cases hfailed
      · exact ⟨failed, hmem, hfailed⟩

/-- **A pair has lapsed when it is remembered and no handler is installed.** -/
theorem lapsed_iff {handler : Option Handler} {wishes : List Wish} {p : Text × Text}
    (hp : (Wish.handlerOf? p).isSome = true) :
    Lapsed p wishes ↔ (afterAll ⟨handler, none⟩ wishes).remembered = some p ∧
      (afterAll ⟨handler, none⟩ wishes).handler = none := by
  constructor
  · rintro ⟨since, hlast, hfailed⟩
    refine ⟨hlast.remembered hp _, ?_⟩
    obtain ⟨before, first, rfl, rfl, hsince⟩ := hlast
    rw [afterAll_append, afterAll_cons]
    refine handler_afterAll ((sound_afterAll handler before).after first) ?_ hsince (.inr hfailed)
    rw [remembered_after]
    exact if_pos hp
  · rintro ⟨hremembered, hnone⟩
    -- the last wish failed, or it was for what had lapsed before it
    induction wishes using List.reverseRecOn with
    | nil => cases hremembered
    | append_singleton wishes w ih =>
      rw [afterAll_concat] at hremembered hnone
      have hsound := sound_afterAll handler wishes
      cases hhandler : w.handler? with
      | none =>
        rw [hsound.after_of_none hhandler] at hremembered
        obtain ⟨since, hsince⟩ := exists_lastFor_of_remembered hremembered
        refine ⟨since ++ [w], hsince.concat fun hsome ↦ ?_, w, by simp, hhandler⟩
        rw [hhandler] at hsome
        cases hsome
      | some named =>
        by_cases hsame : (afterAll ⟨handler, none⟩ wishes).remembered = some w.pair
        · rw [after_of_remembered hsame] at hremembered hnone
          obtain ⟨since, hsince, failed, hmem, hfailed⟩ := ih hremembered hnone
          have hpair : w.pair = p := Option.some.inj (hsame.symm.trans hremembered)
          exact ⟨since ++ [w], hsince.concat fun _ ↦ hpair, failed,
            List.mem_append_left [w] hmem, hfailed⟩
        · rw [after_of_some hsame hhandler] at hnone
          cases hnone

/-! ### The wish that is fulfilled -/

/-- **A fulfilled wish leaves the handler that it names unless that has lapsed.** Let a log that
remembers nothing be configured any number of times, with whatever levels and profiles, and then
once more. The last wish is fulfilled if its level is known, in whatever case it is written.
Afterwards a handler is installed if that is so and the wish is not for a configuration that has
lapsed, and it is the one that the wish names: of its profile, at its level. For a configuration
that has lapsed the wish is fulfilled and no handler is installed. -/
theorem handler_configured_iff (handler : Option Handler) (wishes : List Wish) (w : Wish) :
    let log := afterAll ⟨handler, none⟩ wishes
    let configured := log.configure w.level w.profile
    (configured.1 = .ok () ↔ ∃ threshold, Level.ofName? (Text.upper w.level) = some threshold) ∧
      (∀ installed, configured.2.handler = some installed ↔
        (∃ threshold, Level.ofName? (Text.upper w.level) = some threshold ∧
          installed = ⟨formOf w.profile, threshold⟩) ∧ ¬Lapsed w.pair wishes) ∧
      (configured.1 = .ok () ∧ configured.2.handler = none ↔
        (∃ threshold, Level.ofName? (Text.upper w.level) = some threshold) ∧
          Lapsed w.pair wishes) := by
  intro log configured
  have hsound : log.Sound := sound_afterAll handler wishes
  have hnamed : w.handler? = (Level.ofName? (Text.upper w.level)).map fun threshold ↦
    ⟨formOf w.profile, threshold⟩ := rfl
  cases hlevel : Level.ofName? (Text.upper w.level) with
  | none =>
    rw [hlevel, Option.map_none] at hnamed
    have hfails : configured = (.error (Text.upper w.level), { log with handler := none }) :=
      hsound.configure_of_none hnamed
    simp [hfails]
  | some threshold =>
    rw [hlevel, Option.map_some] at hnamed
    have hlapsed : Lapsed w.pair wishes ↔ log.remembered = some w.pair ∧ log.handler = none :=
      lapsed_iff (Option.isSome_of_mem hnamed)
    by_cases hremembered : log.remembered = some w.pair
    · -- nothing is changed, and what is remembered is installed or nothing is
      have hkept : configured = (.ok (), log) := configure_of_remembered hremembered
      obtain ⟨named, hhandler, hinstalled⟩ := hsound w.pair hremembered
      obtain rfl : named = ⟨formOf w.profile, threshold⟩ :=
        Option.some.inj (hhandler.symm.trans hnamed)
      rcases hinstalled with hnone | hsome
      · simp [hkept, hlapsed, hremembered, hnone]
      · simp [hkept, hlapsed, hremembered, hsome, eq_comm]
    · have hmade : configured = (.ok (), ⟨some ⟨formOf w.profile, threshold⟩, some w.pair⟩) :=
        (configure_of_not_remembered hremembered).trans (by rw [hnamed])
      simp [hmade, hlapsed, hremembered, eq_comm]

/-- A wish for what is remembered, after one for a level that is not known: it is fulfilled, and no
handler is installed. -/
theorem configured_without_handler :
    let log := empty.afterAll [⟨"INFO".toList, defaultProfile⟩, ⟨"BAD".toList, defaultProfile⟩]
    let configured := log.configure "INFO".toList defaultProfile
    configured.1 = .ok () ∧ Level.ofName? (Text.upper "INFO".toList) = some .info ∧
      configured.2.handler = none := by
  decide +kernel

end Configuration

end CommandScript.Log
