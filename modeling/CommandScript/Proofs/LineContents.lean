import CommandScript.Proofs.Readings

/-!
# Lines with the same contents

Of a line the reader looks at no more than its content. So two readers that have read as many lines
and stand before lines with the same contents **agree**: a reading of the one gives the command and
the records that a reading of the other gives, and leaves both readers agreeing again
(`Agrees.read`). So are any number of readings (`Agrees.after`), and texts can be compared line by
line (`readAlike_of_contents`).

A first use of this is the end of a text: whether its last line has a line feed makes no difference
(`readAlike_concat_newline`).
-/
namespace CommandScript.Reader

/-- Two readers **agree** when they have read as many lines and stand before lines with the same
contents. -/
structure Agrees (r r' : Reader) : Prop where
  /-- The lines that are left have the same contents. -/
  contents : r'.unread.map Line.content = r.unread.map Line.content
  /-- As many lines have been read. -/
  line : r'.line = r.line

/-- Two readings **agree**: they give the same, and so do the readings after them. -/
structure AgreesReading (reading reading' : Reading) : Prop where
  /-- The commands are the same. -/
  command : reading'.command = reading.command
  /-- The records are the same. -/
  records : reading'.records = reading.records
  /-- The readers after them agree. -/
  reader : reading.reader.Agrees reading'.reader

/-- **Reading on from lines with the same contents gives the same.** -/
theorem agreesReading_readOn (line : ℕ) (collected : List Text) {lines lines' : List Text}
    (h : lines'.map Line.content = lines.map Line.content) :
    AgreesReading (readOn line collected lines) (readOn line collected lines') := by
  induction lines generalizing line collected lines' with
  | nil =>
    obtain rfl := List.map_eq_nil_iff.1 h
    exact ⟨rfl, rfl, rfl, rfl⟩
  | cons raw rest ih =>
    obtain ⟨raw', rest', rfl, hraw, hrest⟩ := List.map_eq_cons_iff.1 h
    rw [readOn, readOn, hraw]
    cases Line.content raw with
    | comment text => exact ⟨rfl, rfl, hrest, rfl⟩
    | body tokens ending =>
      by_cases hends : ending = .complete ∧ collected ++ tokens ≠ []
      · simp only [if_pos hends]
        exact ⟨rfl, rfl, hrest, rfl⟩
      · simp only [if_neg hends]
        obtain ⟨hcommand, hrecords, hreader⟩ := ih (line + 1) (collected ++ tokens) hrest
        exact ⟨hcommand, congrArg (endingRecords (line + 1) ending ++ ·) hrecords, hreader⟩

/-- A reading of readers that agree. -/
theorem Agrees.read {r r' : Reader} (h : r.Agrees r') : AgreesReading r.read r'.read := by
  rw [Reader.read, Reader.read, h.line]
  exact agreesReading_readOn r.line [] h.contents

/-- Any number of readings of readers that agree. -/
theorem Agrees.after {r r' : Reader} (h : r.Agrees r') (n : ℕ) :
    (r.after n).Agrees (r'.after n) := by
  induction n with
  | zero => exact h
  | succ n ih => exact ih.read.reader

/-- Two texts **read alike**: however many readings have been made of both, the next ones give the
same command, line number and records. -/
def ReadAlike (t t' : Text) : Prop :=
  ∀ n, let reading := ((ofText t).after n).read
    let reading' := ((ofText t').after n).read
    reading'.command = reading.command ∧ reading'.reader.line = reading.reader.line ∧
      reading'.records = reading.records

/-- **Texts whose lines have the same contents read alike.** -/
theorem readAlike_of_contents {t t' : Text} (h : (Text.physicalLines t').map Line.content =
    (Text.physicalLines t).map Line.content) : ReadAlike t t' := by
  intro n
  have hstart : (ofText t).Agrees (ofText t') := ⟨h, rfl⟩
  obtain ⟨hcommand, hrecords, hreader⟩ := (hstart.after n).read
  exact ⟨hcommand, hreader.line, hrecords⟩

/-! ### The line feed at the end of a text -/

/-- A line feed at its end makes no difference to a line. -/
theorem content_concat_newline (raw : Text) :
    Line.content (raw ++ ['\n']) = Line.content raw := by
  rw [Line.content, Line.normalize_concat_newline, Line.content]

/-- A line feed behind a text that does not end with one is the end of its last line. -/
theorem map_content_concat_newline {t : Text} (hne : t ≠ []) (hlast : t.getLast? ≠ some '\n') :
    (Text.physicalLines (t ++ ['\n'])).map Line.content =
      (Text.physicalLines t).map Line.content := by
  have hlines := Text.linesOf_physicalLines t
  generalize hcut : Text.physicalLines t = lines at hlines
  induction hlines with
  | nil => exact absurd rfl hne
  | @last t _ hlf =>
    rw [Text.physicalLines_append [] hlf, List.map_cons, content_concat_newline]
    rfl
  | @cons body rest lines hlf hrest ih =>
    have hrestNe : rest ≠ [] := by
      rintro rfl
      exact hlast (by simp)
    have hrestLast : rest.getLast? ≠ some '\n' := by
      rwa [List.getLast?_append_cons, List.getLast?_cons_of_ne_nil hrestNe] at hlast
    rw [List.append_assoc, List.cons_append, Text.physicalLines_append _ hlf, List.map_cons,
      ih hrestNe hrestLast (Text.linesOf_iff.1 hrest).symm, List.map_cons]

/-- **A missing line feed at the end makes no difference.** A text that is not empty and does not
end with a line feed reads as it does with a line feed behind it. -/
theorem readAlike_concat_newline (t : Text) (hne : t ≠ []) (hlast : t.getLast? ≠ some '\n') :
    ReadAlike t (t ++ ['\n']) :=
  readAlike_of_contents (map_content_concat_newline hne hlast)

/-- A text that ends in the middle of a command, with a token behind its continuation marker. -/
theorem readAlike_concat_newline_pending :
    let t := "# docs\nbuild _\n\t all \\ now".toList
    t ≠ [] ∧ t.getLast? ≠ some '\n' ∧ ReadAlike t (t ++ ['\n']) := by
  intro t
  have hne : t ≠ [] := by decide
  have hlast : t.getLast? ≠ some '\n' := by decide
  exact ⟨hne, hlast, readAlike_concat_newline t hne hlast⟩

end CommandScript.Reader
