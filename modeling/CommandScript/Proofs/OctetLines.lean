import CommandScript.Proofs.LineEnds
import CommandScript.Proofs.PhysicalLines
import CommandScript.Proofs.SavedScripts
import CommandScript.Proofs.Segments
import Mathlib.Data.List.Forall2

/-!
# The lines of a file

The octets of a script can be cut into lines before anything is decoded: `OctetLinesOf` cuts at
every line end, and there is one such cut (`octetLinesOf_iff`). The lines that are read are the
lines of octets, each decoded by itself (`OctetLinesOf.physicalLines_eq`), because an octet of a
line end is one of ASCII, and no ill-formed run before it takes it in.

So an ill-formed run changes nothing beyond its own line (`forall₂_decodes_lines`). The lines of
octets are not quite free of each other: a carriage return and a line feed that end two lines become
one line end when all that stands between them is taken out (`JoinsEnds`).
-/
namespace CommandScript.Script

open Text (LineEnd)

/-- A **line of octets**: its body, and the line end behind it, which the last line may lack. -/
structure OctetLine where
  /-- The octets before the line end. -/
  body : List UInt8
  /-- The line end. -/
  ending : Option LineEnd
  deriving DecidableEq, Repr

/-- The octets of a line, with those of its line end. -/
def OctetLine.octets (line : OctetLine) : List UInt8 :=
  line.body ++ (line.ending.map LineEnd.octets).getD []

/-- Octets with no octet of a line end among them. -/
def HoldsNoEnd (octets : List UInt8) : Prop := 0x0A ∉ octets ∧ 0x0D ∉ octets

/-- The **lines of** octets: they are cut at every line end, and a carriage return is one together
with the line feed that follows it. What stands behind the last line end is a line when it is not
empty. -/
inductive OctetLinesOf : List UInt8 → List OctetLine → Prop
  /-- No octets, no lines. -/
  | nil : OctetLinesOf [] []
  /-- What stands behind the last line end. -/
  | last {body : List UInt8} (hne : body ≠ []) (hbody : HoldsNoEnd body) :
      OctetLinesOf body [⟨body, none⟩]
  /-- What stands before the first line end. -/
  | cons {body rest : List UInt8} {e : LineEnd} {cut : List OctetLine} (hbody : HoldsNoEnd body)
      (hend : e = .carriageReturn → rest.head? ≠ some 0x0A) (hrest : OctetLinesOf rest cut) :
      OctetLinesOf (body ++ e.octets ++ rest) (⟨body, some e⟩ :: cut)

/-- What a line of octets is **decoded** to, by itself: a replacement character for each ill-formed
run, and a line feed for the line end. -/
def Decodes (line : OctetLine) (text : Text) : Prop :=
  ∃ ps, Text.Utf8.Segments line.body ps ∧
    text = ps.map Text.Utf8.Piece.replaced ++ if line.ending.isSome then ['\n'] else []

/-- The text of a line of octets. -/
def OctetLine.text (line : OctetLine) : Text :=
  Text.Utf8.decodeReplacing line.body ++ if line.ending.isSome then ['\n'] else []

/-- The text of a line of octets is what it is decoded to. -/
theorem decodes_text (line : OctetLine) : Decodes line line.text :=
  ⟨_, Text.Utf8.segments_pieces line.body, rfl⟩

/-! ### There is one cut -/

/-- Octets cut into lines. -/
def cutLines : List UInt8 → List OctetLine
  | [] => []
  | 0x0D :: 0x0A :: rest => ⟨[], some .both⟩ :: cutLines rest
  | b :: rest =>
    if b = 0x0A then ⟨[], some .lineFeed⟩ :: cutLines rest
    else if b = 0x0D then ⟨[], some .carriageReturn⟩ :: cutLines rest
    else match cutLines rest with
      | [] => [⟨[b], none⟩]
      | line :: cut => ⟨b :: line.body, line.ending⟩ :: cut

theorem cutLines_cons {b : UInt8} (rest : List UInt8)
    (h : b = 0x0D → rest.head? ≠ some 0x0A) :
    cutLines (b :: rest) =
      if b = 0x0A then ⟨[], some .lineFeed⟩ :: cutLines rest
      else if b = 0x0D then ⟨[], some .carriageReturn⟩ :: cutLines rest
      else match cutLines rest with
        | [] => [⟨[b], none⟩]
        | line :: cut => ⟨b :: line.body, line.ending⟩ :: cut := by
  rw [cutLines]
  rintro after hb rfl
  exact h hb rfl

/-- A line end at the start. -/
theorem cutLines_octets_append (e : LineEnd) {rest : List UInt8}
    (hend : e = .carriageReturn → rest.head? ≠ some 0x0A) :
    cutLines (e.octets ++ rest) = ⟨[], some e⟩ :: cutLines rest := by
  cases e with
  | lineFeed => exact cutLines_cons rest fun h ↦ absurd h (by decide)
  | both =>
    rw [show LineEnd.octets .both ++ rest = 0x0D :: 0x0A :: rest from rfl, cutLines]
  | carriageReturn => exact cutLines_cons rest fun _ ↦ hend rfl

/-- An octet before a line. -/
theorem cutLines_cons_of_ne {b : UInt8} (rest : List UInt8) (hfeed : b ≠ 0x0A)
    (hreturn : b ≠ 0x0D) :
    cutLines (b :: rest) = match cutLines rest with
      | [] => [⟨[b], none⟩]
      | line :: cut => ⟨b :: line.body, line.ending⟩ :: cut := by
  rw [cutLines_cons rest fun h ↦ absurd h hreturn, if_neg hfeed, if_neg hreturn]

theorem HoldsNoEnd.of_cons {b : UInt8} {body : List UInt8} (h : HoldsNoEnd (b :: body)) :
    b ≠ 0x0A ∧ b ≠ 0x0D ∧ HoldsNoEnd body := by
  obtain ⟨hfeed, hreturn⟩ := h
  rw [List.mem_cons, not_or] at hfeed hreturn
  exact ⟨Ne.symm hfeed.1, Ne.symm hreturn.1, hfeed.2, hreturn.2⟩

theorem OctetLinesOf.cutLines_eq {octets : List UInt8} {cut : List OctetLine}
    (h : OctetLinesOf octets cut) : cutLines octets = cut := by
  induction h with
  | nil => rw [cutLines]
  | @last body hne hbody =>
    induction body with
    | nil => exact absurd rfl hne
    | cons b body ih =>
      obtain ⟨hfeed, hreturn, hbody⟩ := hbody.of_cons
      rw [cutLines_cons_of_ne body hfeed hreturn]
      rcases eq_or_ne body [] with rfl | hne
      · rw [cutLines]
      · rw [ih hne hbody]
  | @cons body rest e cut hbody hend _ ih =>
    induction body with
    | nil => rw [List.nil_append, cutLines_octets_append e hend, ih]
    | cons b body ihbody =>
      obtain ⟨hfeed, hreturn, hbody⟩ := hbody.of_cons
      rw [List.cons_append, List.cons_append, cutLines_cons_of_ne _ hfeed hreturn, ihbody hbody]

theorem octetLinesOf_cutLines (octets : List UInt8) : OctetLinesOf octets (cutLines octets) := by
  have hnil : HoldsNoEnd [] := ⟨List.not_mem_nil, List.not_mem_nil⟩
  fun_induction cutLines octets with
  | case1 => exact .nil
  | case2 rest ih => exact .cons (e := .both) hnil (fun h ↦ LineEnd.noConfusion h) ih
  | case3 rest hnot ih => exact .cons (e := .lineFeed) hnil (fun h ↦ LineEnd.noConfusion h) ih
  | case4 rest hnot hfeed ih =>
    refine .cons (e := .carriageReturn) hnil (fun _ hhead ↦ ?_) ih
    obtain ⟨after, rfl⟩ := List.head?_eq_some_iff.1 hhead
    exact hnot after rfl rfl
  | case5 b rest hnot hfeed hreturn hcut ih =>
    rw [hcut] at ih
    cases ih
    exact .last (by simp) ⟨by simpa using Ne.symm hfeed, by simpa using Ne.symm hreturn⟩
  | case6 b rest hnot hfeed hreturn line cut hcut ih =>
    rw [hcut] at ih
    have hcons : ∀ body, HoldsNoEnd body → HoldsNoEnd (b :: body) := fun body h ↦
      ⟨by simp [Ne.symm hfeed, h.1], by simp [Ne.symm hreturn, h.2]⟩
    cases ih with
    | last hne hbody => exact .last (by simp) (hcons _ hbody)
    | cons hbody hend hrest => exact .cons (hcons _ hbody) hend hrest

/-- **Octets are cut into lines in one way.** -/
theorem octetLinesOf_iff {octets : List UInt8} {cut : List OctetLine} :
    OctetLinesOf octets cut ↔ cut = cutLines octets := by
  constructor
  · intro h
    exact h.cutLines_eq.symm
  · rintro rfl
    exact octetLinesOf_cutLines octets

/-- Lines, one after another, are the octets that were cut. -/
theorem OctetLinesOf.flatMap_octets {octets : List UInt8} {cut : List OctetLine}
    (h : OctetLinesOf octets cut) : cut.flatMap OctetLine.octets = octets := by
  induction h with
  | nil => rfl
  | last _ _ => simp [OctetLine.octets]
  | cons _ _ _ ih => rw [List.flatMap_cons, ih]; rfl

/-! ### Each line is decoded by itself -/

/-- What is decoded from octets without a line end holds none. -/
theorem HoldsNoEnd.not_mem {body : List UInt8} (h : HoldsNoEnd body) :
    '\n' ∉ Text.Utf8.decodeReplacing body ∧ '\r' ∉ Text.Utf8.decodeReplacing body :=
  ⟨fun hmem ↦ h.1 (Text.Utf8.toUInt8_mem_of_mem_decodeReplacing (by decide) hmem),
    fun hmem ↦ h.2 (Text.Utf8.toUInt8_mem_of_mem_decodeReplacing (by decide) hmem)⟩

/-- A line end is decoded to itself, and sets what stands on its two sides apart. -/
theorem decodeReplacing_append_octets_append (body rest : List UInt8) (e : LineEnd) :
    Text.Utf8.decodeReplacing (body ++ e.octets ++ rest) =
      Text.Utf8.decodeReplacing body ++ (e.text ++ Text.Utf8.decodeReplacing rest) := by
  have hfeed := Text.Utf8.decodeReplacing_append_cons (b := 0x0A) (by decide)
  have hreturn := Text.Utf8.decodeReplacing_append_cons (b := 0x0D) (by decide)
  rw [List.append_assoc]
  cases e with
  | lineFeed => exact hfeed body rest
  | both =>
    have hnone := hfeed [] rest
    rw [List.nil_append] at hnone
    exact (hreturn body (0x0A :: rest)).trans (by rw [hnone]; rfl)
  | carriageReturn => exact hreturn body rest

/-- **The lines that are read are the lines of octets, each decoded by itself.** -/
theorem OctetLinesOf.physicalLines_eq {octets : List UInt8} {cut : List OctetLine}
    (h : OctetLinesOf octets cut) :
    Text.physicalLines (Text.unifyLineEnds (Text.Utf8.decodeReplacing octets)) =
      cut.map OctetLine.text := by
  induction h with
  | nil => rfl
  | @last body hne hbody =>
    obtain ⟨hfeed, hreturn⟩ := hbody.not_mem
    have hunify := Text.unifyLineEnds_append [] hreturn
    rw [List.append_nil, Text.unifyLineEnds_nil, List.append_nil] at hunify
    rw [hunify, Text.physicalLines_of_not_mem (Text.Utf8.decodeReplacing_ne_nil hne) hfeed]
    simp [OctetLine.text]
  | @cons body rest e cut hbody hend _ ih =>
    obtain ⟨hfeed, hreturn⟩ := hbody.not_mem
    have hend' : e = .carriageReturn →
        (Text.Utf8.decodeReplacing rest).head? ≠ some '\n' := fun he hhead ↦
      hend he (Text.Utf8.head?_eq_of_head?_decodeReplacing (by decide) hhead)
    rw [decodeReplacing_append_octets_append, Text.unifyLineEnds_append _ hreturn,
      Text.unifyLineEnds_text_append e hend', Text.physicalLines_append _ hfeed, ih]
    rfl

/-! ### The octets of a file -/

/-- The octets of a script without one byte order mark at their start. -/
def contents (octets : List UInt8) : List UInt8 :=
  if mark <+: octets then octets.drop mark.length else octets

/-- Octets that are no more than the **beginning of a mark**. -/
def IsMarkBeginning (octets : List UInt8) : Prop := octets = [0xEF] ∨ octets = [0xEF, 0xBB]

theorem withoutMark_eq_contents {octets : List UInt8} (h : ¬IsMarkBeginning octets) :
    withoutMark octets = contents octets := by
  rw [contents]
  split
  · next hmark =>
    obtain ⟨rest, rfl⟩ := hmark
    rw [List.drop_left]
    exact withoutMark_mark_append rest
  · next hmark =>
    refine withoutMark_eq_self (fun hone ↦ h (.inl hone)) (fun htwo ↦ h (.inr htwo)) ?_
    rintro rest rfl
    exact hmark ⟨rest, rfl⟩

/-- The lines that are read from a script, by the cut of its octets. -/
theorem lines_eq_map_text {octets : List UInt8} {cut : List OctetLine}
    (h : ¬IsMarkBeginning octets) (hcut : OctetLinesOf (contents octets) cut) :
    lines octets = cut.map OctetLine.text := by
  rw [lines, text, withoutMark_eq_contents h, hcut.physicalLines_eq]

/-! ### Changing one line -/

/-- Nothing stands in a line that ends in a line feed, behind a line that ends in a carriage return:
the two **join** and are one line end. -/
def JoinsEnds (above : List OctetLine) (line : OctetLine) : Prop :=
  line.body = [] ∧ line.ending = some .lineFeed ∧
    above.getLast?.bind OctetLine.ending = some .carriageReturn

theorem JoinsEnds.cons {above : List OctetLine} {line : OctetLine} (first : OctetLine)
    (h : JoinsEnds above line) : JoinsEnds (first :: above) line := by
  obtain ⟨hbody, hending, hlast⟩ := h
  refine ⟨hbody, hending, ?_⟩
  rwa [List.getLast?_cons_of_ne_nil]
  rintro rfl
  exact absurd hlast (by simp)

/-- Behind a line that has a line end no line feed is added to a carriage return by the change of a
line further on. -/
theorem OctetLinesOf.head?_change_ne {rest : List UInt8} {above below : List OctetLine}
    {line : OctetLine} {body : List UInt8} {first : OctetLine}
    (h : OctetLinesOf rest (above ++ line :: below)) (hbody : HoldsNoEnd body)
    (hjoin : ¬JoinsEnds (first :: above) ⟨body, line.ending⟩)
    (hfirst : first.ending = some .carriageReturn) (hhead : rest.head? ≠ some 0x0A) :
    ((above ++ ⟨body, line.ending⟩ :: below).flatMap OctetLine.octets).head? ≠ some 0x0A := by
  cases above with
  | nil =>
    rw [List.nil_append, List.flatMap_cons, OctetLine.octets]
    cases body with
    | cons b body =>
      rintro ⟨⟩
      exact hbody.1 (List.mem_cons_self ..)
    | nil =>
      cases h with
      | last _ _ => simp
      | @cons _ _ e _ _ _ _ =>
        cases e with
        | lineFeed => exact absurd ⟨rfl, rfl, hfirst⟩ hjoin
        | both => simp [LineEnd.octets]
        | carriageReturn => simp [LineEnd.octets]
  | cons second above =>
    have hne : second.octets ≠ [] := by
      rw [List.cons_append] at h
      generalize htail : above ++ line :: below = tail at h
      cases h with
      | last _ _ => simp at htail
      | @cons _ _ e _ _ _ _ => cases e <;> simp [OctetLine.octets, LineEnd.octets]
    rw [← h.flatMap_octets, List.cons_append, List.flatMap_cons,
      List.head?_append_of_ne_nil _ hne] at hhead
    rwa [List.cons_append, List.flatMap_cons, List.head?_append_of_ne_nil _ hne]

/-- **A line of octets that is changed leaves all others as and where they are**, unless the line
ends around it join. -/
theorem OctetLinesOf.exists_change {octets : List UInt8} {above below : List OctetLine}
    {line : OctetLine} {body : List UInt8} (h : OctetLinesOf octets (above ++ line :: below))
    (hbody : HoldsNoEnd body) (hjoin : ¬JoinsEnds above ⟨body, line.ending⟩) :
    ∃ cut, OctetLinesOf ((above ++ ⟨body, line.ending⟩ :: below).flatMap OctetLine.octets) cut ∧
      ∀ i ≠ above.length, cut[i]? = (above ++ line :: below)[i]? := by
  induction above generalizing octets with
  | nil =>
    cases h with
    | last _ _ =>
      rcases eq_or_ne body [] with rfl | hne
      · -- the last line is gone
        refine ⟨[], .nil, fun i hi ↦ ?_⟩
        obtain ⟨i, rfl⟩ := Nat.exists_eq_succ_of_ne_zero hi
        rfl
      · refine ⟨[⟨body, none⟩], by simpa [OctetLine.octets] using .last hne hbody, fun i hi ↦ ?_⟩
        obtain ⟨i, rfl⟩ := Nat.exists_eq_succ_of_ne_zero hi
        rfl
    | @cons _ rest e _ _ hend hrest =>
      refine ⟨⟨body, some e⟩ :: below, ?_, fun i hi ↦ ?_⟩
      · rw [List.nil_append, List.flatMap_cons, hrest.flatMap_octets]
        exact .cons hbody hend hrest
      · obtain ⟨i, rfl⟩ := Nat.exists_eq_succ_of_ne_zero hi
        rfl
  | cons first above ih =>
    rw [List.cons_append] at h
    generalize htail : above ++ line :: below = tail at h
    cases h with
    | last _ _ => simp at htail
    | @cons firstBody rest e _ hfirst hend hrest =>
      rw [← htail] at hrest
      obtain ⟨cut, hcut, hsame⟩ := ih hrest fun hjoins ↦ hjoin (hjoins.cons _)
      refine ⟨⟨firstBody, some e⟩ :: cut, ?_, fun i hi ↦ ?_⟩
      · rw [List.cons_append, List.flatMap_cons]
        refine .cons hfirst (fun he ↦ ?_) hcut
        exact hrest.head?_change_ne hbody hjoin (congrArg some he) (hend he)
      · cases i with
        | zero => rfl
        | succ i =>
          rw [List.cons_append, List.getElem?_cons_succ, List.getElem?_cons_succ]
          exact hsame i fun heq ↦ hi (by rw [heq, List.length_cons])

/-- **What is ill formed in a line stays in that line.** Every script but the beginning of a mark is
cut into lines of octets, in one way, and the lines that are read are these, in their order, each
decoded by itself. So other octets in one line change no other line and move none, unless they are
no octets at all between a carriage return and a line feed, which are one line end then. -/
theorem forall₂_decodes_lines (octets : List UInt8) (h : ¬IsMarkBeginning octets) :
    ∃ cut, (∀ cut', OctetLinesOf (contents octets) cut' ↔ cut' = cut) ∧
      List.Forall₂ Decodes cut (lines octets) ∧
      ∀ above line below body, cut = above ++ line :: below → HoldsNoEnd body →
        ¬JoinsEnds above ⟨body, line.ending⟩ →
        ∀ changed, ¬IsMarkBeginning changed →
          contents changed = (above ++ ⟨body, line.ending⟩ :: below).flatMap OctetLine.octets →
          ∀ i ≠ above.length, (lines changed)[i]? = (lines octets)[i]? := by
  have hcut := octetLinesOf_cutLines (contents octets)
  refine ⟨_, fun _ ↦ octetLinesOf_iff, ?_, ?_⟩
  · rw [lines_eq_map_text h hcut, List.forall₂_map_right_iff]
    exact List.forall₂_same.2 fun line _ ↦ decodes_text line
  · intro above line below body heq hbody hjoin changed hchanged hcontents i hi
    rw [heq] at hcut
    obtain ⟨cut', hcut', hsame⟩ := hcut.exists_change hbody hjoin
    rw [← hcontents] at hcut'
    rw [lines_eq_map_text hchanged hcut', lines_eq_map_text h hcut, List.getElem?_map,
      List.getElem?_map, hsame i hi]

/-- A character cut short before a line end of two octets, a surrogate, and a character cut short at
the end: other octets in the first line leave the other two. -/
theorem forall₂_decodes_lines_cut_short :
    let octets : List UInt8 := [0xE2, 0x82, 0x0D, 0x0A, 0xED, 0xA0, 0x80, 0x0D, 0x61, 0xF0, 0x9F]
    let changed : List UInt8 := [0xFF, 0x0D, 0x0A, 0xED, 0xA0, 0x80, 0x0D, 0x61, 0xF0, 0x9F]
    let first : OctetLine := ⟨[0xE2, 0x82], some .both⟩
    let below : List OctetLine :=
      [⟨[0xED, 0xA0, 0x80], some .carriageReturn⟩, ⟨[0x61, 0xF0, 0x9F], none⟩]
    ¬IsMarkBeginning octets ∧ List.Forall₂ Decodes (first :: below) (lines octets) ∧
      lines octets = ["\uFFFD\n".toList, "\uFFFD\uFFFD\uFFFD\n".toList, "a\uFFFD".toList] ∧
      ∀ i ≠ 0, (lines changed)[i]? = (lines octets)[i]? := by
  intro octets changed first below
  have hoctets : ¬IsMarkBeginning octets := by rintro (h | h) <;> exact absurd h (by decide)
  have hchanged : ¬IsMarkBeginning changed := by rintro (h | h) <;> exact absurd h (by decide)
  obtain ⟨cut, hcut, hdecodes, hsame⟩ := forall₂_decodes_lines octets hoctets
  obtain rfl : cut = first :: below := by
    rw [octetLinesOf_iff.1 ((hcut cut).2 rfl)]
    decide +kernel
  have hbody : HoldsNoEnd [0xFF] := by constructor <;> decide
  refine ⟨hoctets, hdecodes, by decide +kernel, ?_⟩
  exact hsame [] first below [0xFF] rfl hbody (fun hjoins ↦ absurd hjoins.1 (by simp)) changed
    hchanged (by decide +kernel)

/-- **Without anything between them two line ends can be one.** The second of three lines is taken
out between a carriage return and a line feed, and the third line is then the second. -/
theorem lines_of_joined_ends :
    let octets : List UInt8 := [0x78, 0x0D, 0x61, 0x0A, 0x79]
    let changed : List UInt8 := [0x78, 0x0D, 0x0A, 0x79]
    let above : List OctetLine := [⟨[0x78], some .carriageReturn⟩]
    let below : List OctetLine := [⟨[0x79], none⟩]
    ¬IsMarkBeginning octets ∧ ¬IsMarkBeginning changed ∧
      OctetLinesOf (contents octets) (above ++ ⟨[0x61], some .lineFeed⟩ :: below) ∧
      HoldsNoEnd [] ∧
      contents changed = (above ++ ⟨[], some .lineFeed⟩ :: below).flatMap OctetLine.octets ∧
      ¬∀ i ≠ above.length, (lines changed)[i]? = (lines octets)[i]? := by
  intro octets changed above below
  have hcut := octetLinesOf_cutLines (contents octets)
  rw [show cutLines (contents octets) = above ++ ⟨[0x61], some .lineFeed⟩ :: below by
    decide +kernel] at hcut
  refine ⟨?_, ?_, hcut, by constructor <;> decide, by decide +kernel, fun hsame ↦ ?_⟩
  · rintro (h | h) <;> exact absurd h (by decide)
  · rintro (h | h) <;> exact absurd h (by decide)
  · exact absurd (hsame 2 (by decide)) (by decide +kernel)

end CommandScript.Script
