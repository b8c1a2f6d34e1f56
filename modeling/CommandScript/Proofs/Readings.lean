import CommandScript.Proofs.Description

/-!
# One reading after another

`Reader.after r n` is the reader after `n` readings and `commandAt r n` the command that the next
one gives, so a reader is an endless sequence of commands: at the end of its lines it stays where it
is and gives the exit command for ever (`commandAt_of_length_le`). On the way it stands before the
lines that are left of its text, and its line number is the count of those that are not
(`exists_after_ofText`).
-/
namespace CommandScript.Reader

/-- The reader **after** a number of readings. -/
def after (r : Reader) : ℕ → Reader
  | 0 => r
  | n + 1 => (r.after n).read.reader

/-- The command that the reading gives which a number of others precede. -/
def commandAt (r : Reader) (n : ℕ) : Text := (r.after n).read.command

/-- The first commands of a reader. -/
def commands (r : Reader) (n : ℕ) : List Text := (List.range n).map r.commandAt

/-- The places at which the first readings start. -/
def places (r : Reader) (n : ℕ) : List Reader := (List.range n).map r.after

@[simp] theorem after_zero (r : Reader) : r.after 0 = r := rfl

theorem after_succ (r : Reader) (n : ℕ) : r.after (n + 1) = (r.after n).read.reader := rfl

/-- Readings after readings. -/
theorem after_add (r : Reader) (m n : ℕ) : r.after (m + n) = (r.after m).after n := by
  induction n with
  | zero => rfl
  | succ n ih => rw [← Nat.add_assoc, after_succ, ih, after_succ]

/-- The first reading set apart. -/
theorem after_succ' (r : Reader) (n : ℕ) : r.after (n + 1) = r.read.reader.after n := by
  rw [Nat.add_comm, after_add]
  rfl

/-- The first place set apart. -/
theorem places_succ (r : Reader) (n : ℕ) : r.places (n + 1) = r :: r.read.reader.places n := by
  rw [places, List.range_succ_eq_map, List.map_cons, List.map_map, places]
  congr 2
  exact funext fun k ↦ r.after_succ' k

/-- The first commands are read at the first places. -/
theorem commands_eq_map_places (r : Reader) (n : ℕ) :
    r.commands n = (r.places n).map fun r ↦ r.read.command := by
  rw [places, List.map_map]
  rfl

@[simp] theorem commandAt_zero (r : Reader) : r.commandAt 0 = r.read.command := rfl

theorem commandAt_add (r : Reader) (m n : ℕ) :
    r.commandAt (m + n) = (r.after m).commandAt n := by
  rw [commandAt, after_add, commandAt]

theorem commandAt_succ (r : Reader) (n : ℕ) : r.commandAt (n + 1) = r.read.reader.commandAt n := by
  rw [commandAt, after_succ', commandAt]

@[simp] theorem commands_zero (r : Reader) : r.commands 0 = [] := rfl

/-- The first command set apart. -/
theorem commands_succ (r : Reader) (n : ℕ) :
    r.commands (n + 1) = r.read.command :: r.read.reader.commands n := by
  rw [commands_eq_map_places, places_succ, List.map_cons, ← commands_eq_map_places]

/-- The first commands, and then those of the reader after them. -/
theorem commands_add (r : Reader) (m n : ℕ) :
    r.commands (m + n) = r.commands m ++ (r.after m).commands n := by
  rw [commands, List.range_add, List.map_append, List.map_map, commands, commands]
  congr 2
  exact funext fun j ↦ r.commandAt_add m j

/-- The first readings of a reader. -/
def firstReadings (r : Reader) (n : ℕ) : List Reading := (List.range n).map fun k ↦ (r.after k).read

/-- The first reading, and then those of the reader after it. -/
theorem firstReadings_succ (r : Reader) (n : ℕ) :
    r.firstReadings (n + 1) = r.read :: r.read.reader.firstReadings n := by
  have hplaces (r : Reader) (n : ℕ) : r.firstReadings n = (r.places n).map read := by
    rw [places, List.map_map]
    rfl
  rw [hplaces, places_succ, List.map_cons, ← hplaces]

/-- The first readings give the first commands. -/
theorem map_command_firstReadings (r : Reader) (n : ℕ) :
    (r.firstReadings n).map Reading.command = r.commands n := List.map_map

theorem mem_commands {r : Reader} {n : ℕ} {command : Text} :
    command ∈ r.commands n ↔ ∃ k < n, r.commandAt k = command := by
  simp [commands]

/-! ### Where a reader stands -/

theorem read_eq_described (r : Reader) : r.read = r.described := readOn_eq_describedOn r.line [] _

/-- A reading takes the reader over some of its lines and counts them. -/
theorem exists_reader_read (r : Reader) :
    ∃ k ≤ r.unread.length, r.read.reader = ⟨r.unread.drop k, r.line + k⟩ := by
  rw [read_eq_described, described, describedOn]
  cases hend : commandEnd? [] r.unread with
  | none => exact ⟨r.unread.length, le_rfl, by rw [List.drop_length]⟩
  | some i =>
    have hlt : i < r.unread.length := by
      have hmem := List.mem_of_find?_eq_some hend
      exact List.mem_range.1 hmem
    refine ⟨i + 1, hlt, ?_⟩
    dsimp only
    cases Line.isComment (r.unread.getD i []) <;> rfl

/-- After any number of readings of a text the reader stands before what is left of its lines. -/
theorem exists_after_ofText (t : Text) (n : ℕ) :
    ∃ k ≤ (Text.physicalLines t).length,
      (ofText t).after n = ⟨(Text.physicalLines t).drop k, k⟩ := by
  induction n with
  | zero => exact ⟨0, Nat.zero_le _, rfl⟩
  | succ n ih =>
    obtain ⟨k, hk, hafter⟩ := ih
    obtain ⟨j, hj, hread⟩ := exists_reader_read ((ofText t).after n)
    rw [hafter, List.length_drop] at hj
    refine ⟨k + j, by omega, ?_⟩
    rw [after_succ, hread, hafter, List.drop_drop]

/-- No reading goes back. -/
theorem line_le_line_after (r : Reader) (n : ℕ) : r.line ≤ (r.after n).line := by
  induction n with
  | zero => exact le_rfl
  | succ n ih =>
    obtain ⟨k, -, hread⟩ := exists_reader_read (r.after n)
    rw [after_succ, hread]
    exact Nat.le_add_right_of_le ih

theorem line_after_mono (r : Reader) {m n : ℕ} (h : m ≤ n) :
    (r.after m).line ≤ (r.after n).line := by
  obtain ⟨k, rfl⟩ := Nat.exists_eq_add_of_le h
  rw [after_add]
  exact line_le_line_after _ k

/-! ### At the end of the lines -/

/-- With nothing left to read, a reading gives the exit command and leaves the reader as it is. -/
theorem read_of_unread_eq_nil {r : Reader} (h : r.unread = []) : r.read = ⟨exitCommand, [], r⟩ := by
  obtain ⟨lines, line⟩ := r
  obtain rfl : lines = [] := h
  rfl

/-- There are at most as many readings as lines before the reader comes to their end. -/
theorem length_unread_after_le (r : Reader) (n : ℕ) :
    (r.after n).unread.length ≤ r.unread.length - n := by
  induction n with
  | zero => simp
  | succ n ih =>
    rw [after_succ]
    -- a reader at the end stays there, and any other takes a line
    rcases eq_or_ne (r.after n).unread [] with hnil | hne
    · rw [read_of_unread_eq_nil hnil, hnil]
      simp
    · have hlt := length_unread_read_lt _ hne
      omega

/-- **At the end of its lines a reader gives the exit command for ever.** -/
theorem commandAt_of_length_le (r : Reader) {n : ℕ} (h : r.unread.length ≤ n) :
    r.commandAt n = exitCommand := by
  have hle := length_unread_after_le r n
  have hnil : (r.after n).unread = [] := List.length_eq_zero_iff.1 (by omega)
  rw [commandAt, read_of_unread_eq_nil hnil]

/-- A comment, a command of two lines, and the exit command behind them. -/
example : (ofText "# note\nbuild _\nall # tail\n".toList).commands 4 =
    ["# note".toList, "build all".toList, exitCommand, exitCommand] := by cbv

/-! ### The description at any place -/

/-- **Every reading of a text is as described.** The lines of the text are its pieces up to and
including each line feed, with what stands after the last one, and nothing else. After any number of
readings the reader stands before one of them, or at the end, and what the next reading gives,
consumes and logs is described by the lines that are left. The command ends with the least of them
that can end it, when there is one. -/
theorem read_after_eq_described (t : Text) (n : ℕ) :
    (∀ lines, Text.LinesOf t lines ↔ lines = Text.physicalLines t) ∧
      ∃ k ≤ (Text.physicalLines t).length,
        let lines := (Text.physicalLines t).drop k
        (ofText t).after n = ⟨lines, k⟩ ∧
          ((ofText t).after n).read = described ⟨lines, k⟩ ∧
          ∀ m, commandEnd? [] lines = some m ↔
            endsCommand [] lines m = true ∧ ∀ j < m, endsCommand [] lines j = false := by
  obtain ⟨k, hk, hafter⟩ := exists_after_ofText t n
  refine ⟨fun _ ↦ Text.linesOf_iff, k, hk, hafter, ?_, fun m ↦ commandEnd?_eq_some_iff⟩
  rw [hafter, read_eq_described]

end CommandScript.Reader
