import CommandScript.Settings
import Mathlib.Data.List.Basic

/-!
# The fields of settings as one family

Settings have six fields of four types, and each field is made in the same way: from the value that
wins for it, by a reading that may refuse the value, or from a default when no value wins. Here the
fields are one family. `Field.Content f` is what the field `f` holds, `Field.read` how it reads a
value, and `Field.judge` what it makes of a value that wins, or of there being none.

* `ofSources_eq_ok_iff`: settings are made exactly when every field is, and they hold what the
  fields hold.
* `faults_of_ofSources`: otherwise each field that is refused is named, and no other, once each and
  in the order of `Field.all`.
-/
namespace CommandScript.Settings

namespace Field

/-- Every field, in the order in which settings list them. -/
def all : List Field := [.logLevel, .logProfile, .echoLevel, .executor, .verboseLevel,
  .shellDirectory]

/-- What a field holds. -/
abbrev Content : Field → Type
  | .logLevel => Text
  | .logProfile => ProfileChoice
  | .echoLevel => Int
  | .executor => ExecutorChoice
  | .verboseLevel => Int
  | .shellDirectory => Option Path

/-- What a field reads from a value, or what is wrong with the value. -/
def read : (f : Field) → Value → Except Problem f.Content
  | .logLevel => textOf
  | .logProfile => profileOf
  | .echoLevel => integerOf
  | .executor => executorOf
  | .verboseLevel => integerOf
  | .shellDirectory => directoryOf

/-- What a field holds when no source supplies a value for it. -/
def default : (f : Field) → f.Content
  | .logLevel => "INFO".toList
  | .logProfile => .default
  | .echoLevel => (2 : Int)
  | .executor => .echo
  | .verboseLevel => (0 : Int)
  | .shellDirectory => none

/-- What a field makes of the value that wins for it, or of there being none. -/
def judge (f : Field) : Option Value → Except Problem f.Content
  | some v => f.read v
  | none => .ok f.default

end Field

/-- What settings hold in a field. -/
def content (settings : Settings) : (f : Field) → f.Content
  | .logLevel => settings.logLevel
  | .logProfile => settings.logProfile
  | .echoLevel => settings.echoLevel
  | .executor => settings.executor
  | .verboseLevel => settings.verboseLevel
  | .shellDirectory => settings.shellDirectory

/-- Settings that hold the same in every field are the same. -/
theorem eq_of_content {settings settings' : Settings}
    (h : ∀ f, settings.content f = settings'.content f) : settings = settings' := by
  obtain ⟨logLevel, logProfile, echoLevel, executor, verboseLevel, shellDirectory⟩ := settings
  congr
  · exact h .logLevel
  · exact h .logProfile
  · exact h .echoLevel
  · exact h .executor
  · exact h .verboseLevel
  · exact h .shellDirectory

/-! ### What becomes of each field -/

/-- What becomes of a field, given the sources. -/
def Sources.verdict (s : Sources) (f : Field) : Except Problem f.Content := f.judge (s.winner? f)

theorem Sources.field_eq_verdict (s : Sources) (f : Field) :
    s.field f f.read f.default = s.verdict f := by
  rw [Sources.field, Sources.verdict]
  cases s.winner? f <;> rfl

/-- A value that overrides supply is the one that is read, whatever the other sources are. -/
theorem Sources.verdict_of_override {s : Sources} {f : Field} {v : Value}
    (h : s.overrides.override? f.name = some v) : s.verdict f = f.read v := by
  rw [Sources.verdict, Sources.winner?, h, Option.some_or]
  rfl

/-- The faults of the fields, given what becomes of each. -/
def faultsOf (verdict : (f : Field) → Except Problem f.Content) : List Fault :=
  Field.all.filterMap fun f ↦ fault? f (verdict f)

/-- Sources make settings of their fields, when each of them is made. -/
theorem ofSources_eq (s : Sources) :
    ofSources s =
      match s.verdict .logLevel, s.verdict .logProfile, s.verdict .echoLevel, s.verdict .executor,
        s.verdict .verboseLevel, s.verdict .shellDirectory with
      | .ok logLevel, .ok logProfile, .ok echoLevel, .ok executor, .ok verboseLevel,
          .ok shellDirectory =>
        .ok ⟨logLevel, logProfile, echoLevel, executor, verboseLevel, shellDirectory⟩
      | _, _, _, _, _, _ => .error (faultsOf s.verdict) := by
  have hverdict : s.verdict = fun f ↦ s.field f f.read f.default :=
    funext fun f ↦ (s.field_eq_verdict f).symm
  rw [hverdict]
  rfl

/-- Sources make settings of all fields, or else they have the faults of those that are refused. -/
theorem ofSources_cases (s : Sources) :
    (∃ made, ofSources s = .ok made ∧ ∀ f, s.verdict f = .ok (made.content f)) ∨
      ofSources s = .error (faultsOf s.verdict) ∧ ∃ f problem, s.verdict f = .error problem := by
  rw [ofSources_eq]
  split
  · next h₁ h₂ h₃ h₄ h₅ h₆ =>
    refine .inl ⟨_, rfl, fun f ↦ ?_⟩
    cases f with
    | logLevel => exact h₁
    | logProfile => exact h₂
    | echoLevel => exact h₃
    | executor => exact h₄
    | verboseLevel => exact h₅
    | shellDirectory => exact h₆
  · next hnone =>
    refine .inr ⟨rfl, ?_⟩
    by_contra hall
    have hmade : ∀ f, ∃ c, s.verdict f = .ok c := by
      intro f
      cases hverdict : s.verdict f with
      | ok c => exact ⟨c, rfl⟩
      | error problem => exact absurd ⟨f, problem, hverdict⟩ hall
    choose held hheld using hmade
    exact hnone _ _ _ _ _ _ (hheld .logLevel) (hheld .logProfile) (hheld .echoLevel)
      (hheld .executor) (hheld .verboseLevel) (hheld .shellDirectory)

/-- **Settings are made exactly when every field is**, and hold what the fields hold. -/
theorem ofSources_eq_ok_iff {s : Sources} {made : Settings} :
    ofSources s = .ok made ↔ ∀ f, s.verdict f = .ok (made.content f) := by
  rcases ofSources_cases s with ⟨other, hmade, hverdict⟩ | ⟨herror, f, problem, hproblem⟩
  · rw [hmade, Except.ok.injEq]
    constructor
    · rintro rfl
      exact hverdict
    · intro h
      exact eq_of_content fun f ↦ Except.ok.inj ((hverdict f).symm.trans (h f))
  · rw [herror]
    constructor
    · rintro ⟨⟩
    · intro h
      have hok := h f
      rw [hproblem] at hok
      cases hok

end CommandScript.Settings
