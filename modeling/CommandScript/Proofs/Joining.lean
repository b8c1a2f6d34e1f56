import CommandScript.Proofs.Readings
import CommandScript.Proofs.TokenRows
import Mathlib.Data.List.Forall2

/-!
# Scripts one after another

A text that is empty, or whose last line is complete and does not continue, **may be followed** by
any other: nothing that it has given is still open at its end. Up to the end of the lines, the
readings of both together give the commands of the first text and then those of the second, and log
the records of the one and then those of the other (`entries_ofText_append`). Only the line numbers
of the second are further on, by the lines of the first.

At the border the readings need not be the same. When the last lines of the first text give nothing
to run, they alone are read as the end of a script, and before the second text they are the
beginning of a longer reading (`readOn_append`); what such lines log comes in either case before
anything else.
-/
namespace CommandScript

namespace Text

/-- The lines of a text that ends with a line feed, before those of another. -/
theorem physicalLines_append_of_getLast? {t : Text} (rest : Text)
    (h : t = [] ∨ t.getLast? = some '\n') :
    physicalLines (t ++ rest) = physicalLines t ++ physicalLines rest := by
  have hlines := linesOf_physicalLines t
  generalize hcut : physicalLines t = lines at hlines
  induction hlines with
  | nil => rfl
  | @last t hne hlf =>
    have hlast := h.resolve_left hne
    exact absurd (List.mem_of_mem_getLast? hlast) hlf
  | @cons body after lines hlf hrest ih =>
    have hafter : after = [] ∨ after.getLast? = some '\n' := by
      rcases eq_or_ne after [] with rfl | hne
      · exact .inl rfl
      · have hlast := h.resolve_left (by simp)
        rw [List.getLast?_append_cons, List.getLast?_cons_of_ne_nil hne] at hlast
        exact .inr hlast
    rw [List.append_assoc, List.cons_append, physicalLines_append _ hlf,
      ih hafter (linesOf_iff.1 hrest).symm]
    rfl

end Text

namespace Line

/-- A comment does not continue: its first token opens it. -/
theorem continues_of_isComment {raw : Text} (h : isComment raw = true) :
    continues raw = false := by
  obtain ⟨token, hfirst, htoken⟩ := Token.exists_head?_split (beq_iff_eq.1 h) (by decide)
  have hopens : Token.opensComment token = true := by simp [Token.opensComment, htoken]
  have hplain : isPlain token = false := by simp [isPlain, hopens]
  rw [continues, stop?, tokens, ← List.cons_head?_tail hfirst, List.find?_cons, hplain]
  exact not_isMarker_of_opensComment hopens

/-- A line continues unless each of its markers stands behind a token that opens a comment. -/
theorem continues_eq_false_iff_forall (raw : Text) :
    continues raw = false ↔ ∀ before marker after, tokens raw = before ++ marker :: after →
      Token.isMarker marker = true → ∃ opener ∈ before, Token.opensComment opener = true := by
  constructor
  · intro h before marker after htokens hmarker
    have hplain : isPlain marker = false := by simp [isPlain, hmarker]
    rw [continues, stop?, htokens, List.find?_append, List.find?_cons, hplain] at h
    cases hstop : before.find? (!isPlain ·) with
    | none =>
      rw [hstop] at h
      exact absurd hmarker (by simpa using h)
    | some stop =>
      rw [hstop] at h
      have hnot : isPlain stop = false := by simpa using List.find?_some hstop
      refine ⟨stop, List.mem_of_find?_eq_some hstop, ?_⟩
      have hmarks : Token.isMarker stop = false := by simpa using h
      simpa [isPlain, hmarks] using hnot
  · intro h
    cases hstop : stop? raw with
    | none => rw [continues, hstop, Option.any_none]
    | some stop =>
      obtain ⟨-, before, after, htokens, hbefore⟩ := List.find?_eq_some_iff_append.1 hstop
      rw [continues, hstop, Option.any_some]
      by_contra hmarker
      obtain ⟨opener, hopener, hopens⟩ := h before stop after htokens (by simpa using hmarker)
      have hplain := hbefore opener hopener
      simp [isPlain, hopens] at hplain

/-- A line does not continue when it is blank, a comment, or has no continuation marker before a
token that opens a comment. -/
theorem continues_eq_false_iff (raw : Text) :
    continues raw = false ↔ normalize raw = [] ∨ isComment raw = true ∨
      ∀ before marker after, tokens raw = before ++ marker :: after →
        Token.isMarker marker = true → ∃ opener ∈ before, Token.opensComment opener = true := by
  constructor
  · exact fun h ↦ .inr (.inr ((continues_eq_false_iff_forall raw).1 h))
  · rintro (hblank | hcomment | hmarkers)
    · rw [continues, stop?, tokens, hblank, Token.split_nil]
      rfl
    · exact continues_of_isComment hcomment
    · exact (continues_eq_false_iff_forall raw).2 hmarkers

end Line

namespace Reader

/-! ### Reading to the end -/

/-- The readings up to the end of the lines. -/
def toEnd (r : Reader) : List Reading :=
  if h : r.unread = [] then []
  else
    have := r.length_unread_read_lt h
    r.read :: toEnd r.read.reader
termination_by r.unread.length

/-- The **entry** of a reading: the command with the line number after it; the exit command has
none. -/
def entryOf? (reading : Reading) : Option (Text × ℕ) :=
  if reading.command = exitCommand then none else some (reading.command, reading.reader.line)

/-- The entries of the readings up to the end. -/
def entries (r : Reader) : List (Text × ℕ) := r.toEnd.filterMap entryOf?

/-- The records of all readings up to the end. -/
def recordsToEnd (r : Reader) : List Log.Record := r.toEnd.flatMap Reading.records

@[simp] theorem toEnd_nil (line : ℕ) : toEnd ⟨[], line⟩ = [] := by
  rw [toEnd, dif_pos rfl]

theorem toEnd_of_ne_nil {lines : List Text} (line : ℕ) (h : lines ≠ []) :
    toEnd ⟨lines, line⟩ = readOn line [] lines :: toEnd (readOn line [] lines).reader := by
  rw [toEnd, dif_neg h]
  rfl

/-! ### A reading of appended lines -/

/-- A reading with further lines behind those that it leaves unread. -/
def followedBy (reading : Reading) (lines : List Text) : Reading :=
  { reading with reader := ⟨reading.reader.unread ++ lines, reading.reader.line⟩ }

/-- A reading with records before its own. -/
def noting (records : List Log.Record) (reading : Reading) : Reading :=
  { reading with records := records ++ reading.records }

/-- The last of the lines that are left when some have been dropped is the last of all. -/
theorem mem_getLast?_of_drop {last : Text} {lines : List Text} {k : ℕ}
    (h : last ∈ (lines.drop k).getLast?) : last ∈ lines.getLast? := by
  rw [List.getLast?_drop] at h
  split at h
  · cases h
  · exact h

/-- **A reading of appended lines**, of which the first do not end with a line that continues.
Either it ends in the first lines, and then the second ones stay behind what is left of them. Or the
first lines give nothing to run, and the reading goes on in the second as if it began there, with
what the first have logged. By induction on the first lines: when none is left, nothing is
collected. -/
theorem readOn_append (line : ℕ) {collected first : List Text} (second : List Text)
    (hlast : ∀ raw ∈ first.getLast?, Line.continues raw = false)
    (hnil : first = [] → collected = []) :
    readOn line collected (first ++ second) = followedBy (readOn line collected first) second ∨
      ∃ records,
        readOn line collected first = ⟨exitCommand, records, ⟨[], line + first.length⟩⟩ ∧
        readOn line collected (first ++ second) =
          noting records (readOn (line + first.length) [] second) := by
  induction first generalizing line collected with
  | nil =>
    rw [hnil rfl]
    exact .inr ⟨[], rfl, rfl⟩
  | cons raw rest ih =>
    rw [List.cons_append, readOn, readOn]
    cases hcomment : Line.isComment raw with
    | true =>
      rw [Line.content_of_isComment hcomment]
      exact .inl rfl
    | false =>
      rw [Line.content_of_not_isComment hcomment]
      by_cases hends : Line.ending raw = .complete ∧ collected ++ Line.body raw ≠ []
      · simp only [if_pos hends]
        exact .inl rfl
      simp only [if_neg hends]
      have hrest : rest = [] → collected ++ Line.body raw = [] := by
        rintro rfl
        have hcontinues := hlast raw rfl
        rw [Line.continues_eq, decide_eq_false_iff_not, not_not] at hcontinues
        by_contra hne
        exact hends ⟨hcontinues, hne⟩
      have hlines : line + (raw :: rest).length = line + 1 + rest.length := by
        rw [List.length_cons, Nat.add_assoc, Nat.add_comm 1]
      rw [hlines]
      rcases ih (line + 1) (fun last h ↦ hlast last (mem_getLast?_of_drop (k := 1) h)) hrest with
        hwithin | ⟨records, hfirst, hboth⟩
      · rw [hwithin]
        exact .inl rfl
      · rw [hfirst, hboth]
        refine .inr ⟨endingRecords (line + 1) (Line.ending raw) ++ records, rfl, ?_⟩
        simp only [noting, List.append_assoc]

/-- What the readings of appended lines give, of which the first do not end with a line that
continues. It may be anything that does not depend on what is left unread, and of a reading that
notes something before its own records is what the end of a script gives that notes it, before the
rest. By induction on the first lines: a reading that ends in them leaves fewer, and one that does
not is a reading of the second ones. -/
theorem flatMap_toEnd_append {α : Type} (gives : Reading → List α)
    (hbehind : ∀ reading second, gives (followedBy reading second) = gives reading)
    (hbefore : ∀ reading records line, gives (noting records reading) =
      gives ⟨exitCommand, records, ⟨[], line⟩⟩ ++ gives reading)
    (line : ℕ) {first : List Text} (second : List Text)
    (hlast : ∀ raw ∈ first.getLast?, Line.continues raw = false) :
    (toEnd ⟨first ++ second, line⟩).flatMap gives =
      (toEnd ⟨first, line⟩).flatMap gives ++
        (toEnd ⟨second, line + first.length⟩).flatMap gives := by
  induction hlength : first.length using Nat.strong_induction_on generalizing first line with
  | _ length ih =>
  subst hlength
  rcases eq_or_ne first [] with rfl | hne
  · rw [toEnd_nil]
    rfl
  rcases eq_or_ne second [] with rfl | hsecond
  · rw [List.append_nil, toEnd_nil, List.flatMap_nil, List.append_nil]
  have hboth : first ++ second ≠ [] := by simp [hne]
  rw [toEnd_of_ne_nil line hboth, toEnd_of_ne_nil line hne, List.flatMap_cons, List.flatMap_cons]
  rcases readOn_append line second hlast (fun h ↦ absurd h hne) with
    hwithin | ⟨records, hfirst, hgoesOn⟩
  · obtain ⟨k, hk, hafter⟩ : ∃ k ≤ first.length,
        (readOn line [] first).reader = ⟨first.drop k, line + k⟩ :=
      exists_reader_read ⟨first, line⟩
    have hlt : (readOn line [] first).reader.unread.length < first.length :=
      length_unread_read_lt ⟨first, line⟩ hne
    rw [hafter] at hlt
    have hlines : line + k + (first.drop k).length = line + first.length := by
      rw [List.length_drop]
      omega
    have hrest := ih _ hlt (line + k) (fun raw hraw ↦ hlast raw (mem_getLast?_of_drop hraw)) rfl
    rw [hlines] at hrest
    rw [hwithin, hbehind, followedBy, hafter, hrest, List.append_assoc]
  · rw [hgoesOn, hbefore _ _ (line + first.length), hfirst, toEnd_nil, List.flatMap_nil,
      List.append_nil, List.append_assoc, toEnd_of_ne_nil _ hsecond, List.flatMap_cons]
    rfl

/-- The entries of appended lines. -/
theorem entries_append (line : ℕ) {first : List Text} (second : List Text)
    (hlast : ∀ raw ∈ first.getLast?, Line.continues raw = false) :
    entries ⟨first ++ second, line⟩ =
      entries ⟨first, line⟩ ++ entries ⟨second, line + first.length⟩ := by
  simp only [entries, List.filterMap_eq_flatMap_toList]
  exact flatMap_toEnd_append _ (fun _ _ ↦ rfl) (fun _ _ _ ↦ rfl) line second hlast

/-- The records of appended lines. -/
theorem recordsToEnd_append (line : ℕ) {first : List Text} (second : List Text)
    (hlast : ∀ raw ∈ first.getLast?, Line.continues raw = false) :
    recordsToEnd ⟨first ++ second, line⟩ =
      recordsToEnd ⟨first, line⟩ ++ recordsToEnd ⟨second, line + first.length⟩ :=
  flatMap_toEnd_append _ (fun _ _ ↦ rfl) (fun _ _ _ ↦ rfl) line second hlast

/-! ### Further on -/

/-- A record about a line, and the same record about a line that is **later** by a number. -/
inductive IsLater (n : ℕ) : Log.Record → Log.Record → Prop
  /-- A comment that drops what is collected. -/
  | dropped (line : ℕ) : IsLater n (dropRecord line) (dropRecord (line + n))
  /-- Tokens after a continuation marker. -/
  | excess (line : ℕ) : IsLater n (excessRecord line) (excessRecord (line + n))

/-- A reading, and the same reading of a reader that is later by a number of lines. -/
structure IsLaterReading (n : ℕ) (reading later : Reading) : Prop where
  /-- The commands are the same. -/
  command : later.command = reading.command
  /-- The records are later. -/
  records : List.Forall₂ (IsLater n) reading.records later.records
  /-- The reader after it is later. -/
  reader : later.reader = ⟨reading.reader.unread, reading.reader.line + n⟩

/-- What the ending of a line logs. -/
theorem isLater_endingRecords (n line : ℕ) (ending : Line.Ending) :
    List.Forall₂ (IsLater n) (endingRecords line ending) (endingRecords (line + n) ending) := by
  cases ending with
  | continuedEarly => exact .cons (.excess line) .nil
  | complete | continued => exact .nil

/-- Reading on from a later line gives the same. -/
theorem isLaterReading_readOn (n line : ℕ) (collected lines : List Text) :
    IsLaterReading n (readOn line collected lines) (readOn (line + n) collected lines) := by
  induction lines generalizing line collected with
  | nil => exact ⟨rfl, .nil, rfl⟩
  | cons raw rest ih =>
    have hline : line + n + 1 = line + 1 + n := Nat.add_right_comm line n 1
    rw [readOn, readOn, hline]
    cases Line.content raw with
    | comment text =>
      refine ⟨rfl, ?_, rfl⟩
      dsimp only
      split
      · exact .nil
      · exact .cons (.dropped (line + 1)) .nil
    | body tokens ending =>
      by_cases hends : ending = .complete ∧ collected ++ tokens ≠ []
      · simp only [if_pos hends]
        exact ⟨rfl, .nil, rfl⟩
      · simp only [if_neg hends]
        obtain ⟨hcommand, hrecords, hreader⟩ := ih (line + 1) (collected ++ tokens)
        exact ⟨hcommand,
          List.rel_append (isLater_endingRecords n (line + 1) ending) hrecords, hreader⟩

/-- The readings up to the end from a later line. -/
theorem isLaterReading_toEnd (n line : ℕ) (lines : List Text) :
    List.Forall₂ (IsLaterReading n) (toEnd ⟨lines, line⟩) (toEnd ⟨lines, line + n⟩) := by
  induction hlength : lines.length using Nat.strong_induction_on generalizing lines line with
  | _ length ih =>
  subst hlength
  rcases eq_or_ne lines [] with rfl | hne
  · rw [toEnd_nil, toEnd_nil]
    exact .nil
  have hfirst := isLaterReading_readOn n line [] lines
  have hlt : (readOn line [] lines).reader.unread.length < lines.length :=
    length_unread_read_lt ⟨lines, line⟩ hne
  rw [toEnd_of_ne_nil line hne, toEnd_of_ne_nil (line + n) hne, hfirst.reader]
  exact .cons hfirst (ih _ hlt _ _ rfl)

/-- The entries from a later line. -/
theorem entries_add (n line : ℕ) (lines : List Text) :
    entries ⟨lines, line + n⟩ = (entries ⟨lines, line⟩).map fun e ↦ (e.1, e.2 + n) := by
  have hentry : ∀ ⦃reading later⦄, IsLaterReading n reading later →
      Option.Rel (fun e e' ↦ (e.1, e.2 + n) = e') (entryOf? reading) (entryOf? later) := by
    intro reading later h
    rw [entryOf?, entryOf?, h.command, h.reader]
    split
    · exact .none
    · exact .some rfl
  have hentries := List.rel_filterMap hentry (isLaterReading_toEnd n line lines)
  rw [← List.forall₂_map_left_iff, List.forall₂_eq_eq_eq] at hentries
  exact hentries.symm

/-- The records from a later line. -/
theorem isLater_recordsToEnd (n line : ℕ) (lines : List Text) :
    List.Forall₂ (IsLater n) (recordsToEnd ⟨lines, line⟩) (recordsToEnd ⟨lines, line + n⟩) :=
  List.rel_flatMap (isLaterReading_toEnd n line lines) fun _ _ h ↦ h.records

/-! ### Texts one after another -/

/-- A text **may be followed** by another: it is empty, or it ends with a line feed and its last
line does not continue. -/
def MayBeFollowed (t : Text) : Prop :=
  t = [] ∨ t.getLast? = some '\n' ∧
    ∀ raw ∈ (Text.physicalLines t).getLast?, Line.continues raw = false

/-- **Two scripts one after another give what each of them gives.** Up to the end of the lines, the
commands of both together, the exit command apart, are those of the first and then those of the
second, and so are the records of all readings; the line numbers of the second are later by the
number of lines of the first. -/
theorem entries_ofText_append (t t' : Text) (h : MayBeFollowed t) :
    let n := (Text.physicalLines t).length
    entries (ofText (t ++ t')) =
        entries (ofText t) ++ (entries (ofText t')).map (fun e ↦ (e.1, e.2 + n)) ∧
      ∃ below, List.Forall₂ (IsLater n) (recordsToEnd (ofText t')) below ∧
        recordsToEnd (ofText (t ++ t')) = recordsToEnd (ofText t) ++ below := by
  intro n
  have hlines : Text.physicalLines (t ++ t') = Text.physicalLines t ++ Text.physicalLines t' :=
    Text.physicalLines_append_of_getLast? t' (h.imp_right And.left)
  have hlast : ∀ raw ∈ (Text.physicalLines t).getLast?, Line.continues raw = false := by
    rcases h with rfl | h
    · simp [Text.physicalLines]
    · exact h.2
  rw [ofText, ofText, ofText, hlines, entries_append 0 _ hlast, recordsToEnd_append 0 _ hlast,
    Nat.zero_add, ← Nat.zero_add (Text.physicalLines t).length, entries_add]
  exact ⟨rfl, _, isLater_recordsToEnd _ 0 _, rfl⟩

/-- A first text with a comment that drops what is collected, an exit command before its end, and a
line with tokens after its marker, which together with the blank line behind it gives nothing to
run. -/
theorem entries_ofText_append_open_end :
    let t := "build _\n# docs\nship it\nexit\ntest\n_ later\n\n".toList
    let t' := "tidy _\nup\n".toList
    MayBeFollowed t ∧
      ∃ below, List.Forall₂ (IsLater 7) (recordsToEnd (ofText t')) below ∧
        recordsToEnd (ofText (t ++ t')) = recordsToEnd (ofText t) ++ below := by
  intro t t'
  have hlast : (Text.physicalLines t).getLast? = some ['\n'] := by decide
  have ht : MayBeFollowed t := by
    refine .inr ⟨by decide, fun raw hraw ↦ ?_⟩
    obtain rfl : ['\n'] = raw := Option.some.inj (hlast.symm.trans hraw)
    cbv
  exact ⟨ht, (entries_ofText_append t t' ht).2⟩

/-- The entries of two texts one after another, of which the first gives an exit command before its
end. -/
example : entries (ofText ("ship it\nexit\ntest\n_\n\n".toList ++ "tidy _\nup\n".toList)) =
    [("ship it".toList, 1), ("test".toList, 3), ("tidy up".toList, 7)] := by cbv

end Reader

end CommandScript
