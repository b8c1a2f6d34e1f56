import CommandScript.Proofs.Decoding

/-!
# How octets fall into pieces

`Segments` says it by the octets of characters alone: a piece is a character, or an ill-formed run.
A run is one octet that begins no character, or the first octets of a character that the next octet
does not go on with, so it is as long as it can be. There is one way for any octets to fall into
pieces, and the machine finds it (`segments_iff`).

What is said of single octets then follows without the machine. An octet of ASCII is a character
wherever it stands, and no part of any other piece, so that octets on its two sides are decoded
apart (`decodeReplacing_append_cons`), and a decoded text holds no character of ASCII whose octet is
not there (`toUInt8_mem_of_mem_decodeReplacing`).

Octets are **UTF-8** when they are those of a text. Decoding that refuses ill-formed octets gives
the text then, and otherwise the first ill-formed run (`exists_decodeStrict_eq_ok_iff`,
`isFault_of_decodeStrict`).
-/
namespace CommandScript.Text.Utf8

/-- Octets **begin** a character when they are its first octets, or all of them. -/
def Begins (octets : List UInt8) : Prop := ∃ c, octets <+: encodeChar c

/-- Octets are **partial** when they are the first octets of a character and not all of them. -/
def IsPartial (octets : List UInt8) : Prop :=
  octets ≠ [] ∧ ∃ c left, left ≠ [] ∧ encodeChar c = octets ++ left

/-- An **ill-formed run**, by the octets behind it. -/
inductive IllFormed : List UInt8 → List UInt8 → Flaw → Prop
  /-- One octet that begins no character. -/
  | badStart {b : UInt8} {rest : List UInt8} (h : ¬Begins [b]) : IllFormed [b] rest .badStart
  /-- A part of a character, with which the next octet does not go on. -/
  | badContinuation {run rest : List UInt8} {b : UInt8} (hrun : IsPartial run)
      (h : ¬Begins (run ++ [b])) : IllFormed run (b :: rest) .badContinuation
  /-- A part of a character at the end. -/
  | cutShort {run : List UInt8} (hrun : IsPartial run) : IllFormed run [] .cutShort

/-- Octets **fall into** pieces: characters, and ill-formed runs as long as they can be. -/
inductive Segments : List UInt8 → List Piece → Prop
  /-- No octets, no pieces. -/
  | nil : Segments [] []
  /-- The octets of a character before others. -/
  | char {c : Char} {rest : List UInt8} {ps : List Piece} (hrest : Segments rest ps) :
      Segments (encodeChar c ++ rest) (.char c :: ps)
  /-- An ill-formed run before other octets. -/
  | ill {run rest : List UInt8} {flaw : Flaw} {ps : List Piece} (h : IllFormed run rest flaw)
      (hrest : Segments rest ps) : Segments (run ++ rest) (.ill run flaw :: ps)

/-! ### Where the machine has got to -/

/-- A place within a character is **reached** when it is sound and the machine comes to it, without
a piece on the way, through the octets read so far. -/
structure Pending.Reached (p : Pending) : Prop extends p.Sound where
  /-- Something has been read. -/
  ne_nil : p.read ≠ []
  /-- The machine comes to the place. -/
  reads : ∀ rest, piecesFrom none (p.read ++ rest) = piecesFrom (some p) rest

theorem reached_of_lead? {b : UInt8} {p : Pending} (h : lead? b = some p) : p.Reached := by
  obtain ⟨hread, hsound⟩ := sound_of_lead? h
  refine ⟨hsound, by simp [hread], fun rest ↦ ?_⟩
  rw [hread]
  exact piecesFrom_of_lead? h (le_of_lead? h) rest

theorem piecesFrom_next {p : Pending} {b : UInt8} {more : ℕ} (hb : p.low ≤ b ∧ b ≤ p.high)
    (hmore : p.more = more + 1) (rest : List UInt8) :
    piecesFrom (some p) (b :: rest) = piecesFrom (some (p.next b more)) rest := by
  rw [piecesFrom, step_some_of_more_eq_succ hb hmore]
  rfl

theorem Pending.Reached.next {p : Pending} {b : UInt8} {more : ℕ} (h : p.Reached)
    (hb : p.low ≤ b ∧ b ≤ p.high) (hmore : p.more = more + 1) : (p.next b more).Reached := by
  refine ⟨h.toSound.next hb hmore, by simp [Pending.next], fun rest ↦ ?_⟩
  rw [← piecesFrom_next hb hmore, ← h.reads (b :: rest)]
  simp [Pending.next]

/-- An octet that may not come next ends the run and is read again. -/
theorem piecesFrom_of_not_le {p : Pending} {b : UInt8} (hb : ¬(p.low ≤ b ∧ b ≤ p.high))
    (rest : List UInt8) :
    piecesFrom (some p) (b :: rest) =
      .ill p.read .badContinuation :: piecesFrom none (b :: rest) := by
  rw [piecesFrom, step, if_neg hb]
  rfl

/-- The octets read at a place are a part of a character. -/
theorem Pending.Reached.isPartial {p : Pending} (h : p.Reached) : IsPartial p.read := by
  obtain ⟨c, hencode⟩ := h.toSound.exists_encodeChar
    ⟨UInt8.le_refl p.low, UInt8.le_iff_toNat_le.2 h.le⟩
  exact ⟨h.ne_nil, c, _, by simp, hencode⟩

/-- An octet that may not come next goes on with no character. -/
theorem Pending.Reached.not_begins {p : Pending} {b : UInt8} (h : p.Reached)
    (hb : ¬(p.low ≤ b ∧ b ≤ p.high)) : ¬Begins (p.read ++ [b]) := by
  rintro ⟨c, more, hencode⟩
  -- the machine would find the character, and it finds a run
  have hchar := pieces_encodeChar_append c []
  rw [List.append_nil, ← hencode, pieces, List.append_assoc, h.reads, List.singleton_append,
    piecesFrom_of_not_le hb] at hchar
  exact Piece.noConfusion (List.cons.inj hchar).1

/-- An octet that begins nothing for the machine begins no character. -/
theorem not_begins_of_lead?_eq_none {b : UInt8} (h : lead? b = none) (hb : 0x80 ≤ b.toNat) :
    ¬Begins [b] := by
  rintro ⟨c, more, hencode⟩
  have hchar := pieces_encodeChar_append c []
  rw [List.append_nil, ← hencode, pieces, List.singleton_append,
    piecesFrom_of_lead?_eq_none h hb] at hchar
  exact Piece.noConfusion (List.cons.inj hchar).1

theorem encodeChar_ofNat_toNat {b : UInt8} (h : b.toNat < 0x80) :
    encodeChar (Char.ofNat b.toNat) = [b] := by
  obtain ⟨c, hc⟩ := exists_toNat_eq (n := b.toNat) (by omega)
  rw [← hc, Char.ofNat_toNat, encodeChar_one (by omega), hc]
  simp

/-! ### The machine finds the pieces -/

/-- The last octet of a character, for the machine at a place that it has reached. -/
theorem Pending.Reached.exists_char {p : Pending} {b : UInt8} (h : p.Reached)
    (hb : p.low ≤ b ∧ b ≤ p.high) (hmore : p.more = 0) :
    ∃ c, encodeChar c = p.read ++ [b] ∧
      ∀ rest, piecesFrom (some p) (b :: rest) = .char c :: piecesFrom none rest := by
  obtain ⟨c, hencode⟩ := h.toSound.exists_encodeChar hb
  rw [hmore, continuations] at hencode
  refine ⟨c, hencode, fun rest ↦ ?_⟩
  rw [← h.reads, show p.read ++ b :: rest = p.read ++ [b] ++ rest by simp, ← hencode]
  exact pieces_encodeChar_append c rest

/-- The pieces that the machine finds, from the start and from any place that it has reached. -/
theorem segments_piecesFrom (octets : List UInt8) :
    Segments octets (piecesFrom none octets) ∧
      ∀ p : Pending, p.Reached → Segments (p.read ++ octets) (piecesFrom (some p) octets) := by
  induction octets with
  | nil => exact ⟨.nil, fun p hp ↦ .ill (.cutShort hp.isPartial) .nil⟩
  | cons b rest ih =>
    have hstart : Segments (b :: rest) (piecesFrom none (b :: rest)) := by
      by_cases hb : b.toNat < 0x80
      · rw [piecesFrom_of_lt hb]
        have hchar := Segments.char (c := Char.ofNat b.toNat) ih.1
        rwa [encodeChar_ofNat_toNat hb] at hchar
      cases hlead : lead? b with
      | none =>
        rw [piecesFrom_of_lead?_eq_none hlead (Nat.le_of_not_lt hb)]
        exact .ill (.badStart (not_begins_of_lead?_eq_none hlead (Nat.le_of_not_lt hb))) ih.1
      | some p =>
        have hrest := ih.2 p (reached_of_lead? hlead)
        rwa [(sound_of_lead? hlead).1, List.singleton_append,
          ← piecesFrom_of_lead? hlead (le_of_lead? hlead)] at hrest
    refine ⟨hstart, fun p hp ↦ ?_⟩
    by_cases hb : p.low ≤ b ∧ b ≤ p.high
    · cases hmore : p.more with
      | zero =>
        obtain ⟨c, hencode, hpieces⟩ := hp.exists_char hb hmore
        rw [hpieces, show p.read ++ b :: rest = p.read ++ [b] ++ rest by simp, ← hencode]
        exact .char ih.1
      | succ more =>
        have hrest := ih.2 _ (hp.next hb hmore)
        rw [piecesFrom_next hb hmore]
        simpa [Pending.next] using hrest
    · rw [piecesFrom_of_not_le hb]
      exact .ill (.badContinuation hp.isPartial (hp.not_begins hb)) hstart

/-! ### There is one way to fall into pieces -/

/-- Behind the first octets of a number that is awaited there is a place that is reached. -/
theorem Pending.Reached.exists_append {p : Pending} {n : ℕ} {octets left : List UInt8}
    (h : p.Reached) (hn : p.Awaits n) (hleft : left ≠ [])
    (hoctets : continuations n (p.more + 1) = octets ++ left) :
    ∃ p' : Pending, p'.Reached ∧ p'.read = p.read ++ octets := by
  induction octets generalizing p with
  | nil => exact ⟨p, h, by simp⟩
  | cons b octets ih =>
    rw [continuations, List.cons_append] at hoctets
    obtain ⟨rfl, hrest⟩ := List.cons.inj hoctets
    cases hmore : p.more with
    | zero =>
      rw [hmore, continuations] at hrest
      exact absurd (List.append_eq_nil_iff.1 hrest.symm).2 hleft
    | succ more =>
      rw [hmore] at hrest
      obtain ⟨p', hp', hread⟩ := ih (h.next hn.le_continuation hmore) (hn.next hmore) hrest
      refine ⟨p', hp', ?_⟩
      rw [hread, ← hmore]
      exact List.append_assoc _ [_] octets

/-- Behind a part of a character there is a place that is reached. -/
theorem IsPartial.exists_reached {run : List UInt8} (h : IsPartial run) :
    ∃ p : Pending, p.Reached ∧ p.read = run := by
  obtain ⟨hne, c, left, hleft, hencode⟩ := h
  obtain ⟨b, run, rfl⟩ := List.exists_cons_of_ne_nil hne
  have hlarge : 0x80 ≤ c.toNat := by
    by_contra hlt
    rw [encodeChar_one (Nat.lt_of_not_le hlt), List.cons_append] at hencode
    exact hleft (List.append_eq_nil_iff.1 (List.cons.inj hencode).2.symm).2
  obtain ⟨b', p, hencode', hlead, hawaits⟩ := exists_lead?_encodeChar hlarge
  rw [hencode', List.cons_append] at hencode
  obtain ⟨rfl, hrest⟩ := List.cons.inj hencode
  obtain ⟨p', hp', hread⟩ := (reached_of_lead? hlead).exists_append hawaits hleft hrest
  exact ⟨p', hp', by rw [hread, (sound_of_lead? hlead).1, List.singleton_append]⟩

/-- The machine finds an ill-formed run. -/
theorem IllFormed.pieces_append {run rest : List UInt8} {flaw : Flaw}
    (h : IllFormed run rest flaw) : pieces (run ++ rest) = .ill run flaw :: pieces rest := by
  cases h with
  | @badStart b rest hnot =>
    have hb : 0x80 ≤ b.toNat := by
      by_contra hlt
      exact hnot ⟨_, by rw [encodeChar_ofNat_toNat (Nat.lt_of_not_le hlt)]⟩
    cases hlead : lead? b with
    | none => exact piecesFrom_of_lead?_eq_none hlead hb rest
    | some p =>
      obtain ⟨-, c, left, -, hencode⟩ := (reached_of_lead? hlead).isPartial
      rw [(sound_of_lead? hlead).1] at hencode
      exact absurd ⟨c, left, hencode.symm⟩ hnot
  | @badContinuation run rest b hrun hnot =>
    obtain ⟨p, hp, rfl⟩ := hrun.exists_reached
    have hb : ¬(p.low ≤ b ∧ b ≤ p.high) := by
      intro hb
      obtain ⟨c, hencode⟩ := hp.toSound.exists_encodeChar hb
      exact hnot ⟨c, _, by rw [hencode, List.append_assoc, List.singleton_append]⟩
    rw [pieces, hp.reads, piecesFrom_of_not_le hb, pieces]
  | cutShort hrun =>
    obtain ⟨p, hp, rfl⟩ := hrun.exists_reached
    rw [pieces, hp.reads]
    rfl

/-- **Octets fall into pieces in one way**, and these are the pieces that the machine finds. -/
theorem segments_iff {octets : List UInt8} {ps : List Piece} :
    Segments octets ps ↔ ps = pieces octets := by
  constructor
  · intro h
    induction h with
    | nil => rfl
    | char _ ih => rw [pieces_encodeChar_append, ih]
    | ill hrun _ ih => rw [hrun.pieces_append, ih]
  · rintro rfl
    exact (segments_piecesFrom octets).1

theorem segments_pieces (octets : List UInt8) : Segments octets (pieces octets) :=
  segments_iff.2 rfl

/-! ### Octets of ASCII -/

/-- Behind the first octet of a character there is none of ASCII. -/
theorem le_of_encodeChar_eq_append {c : Char} {run rest : List UInt8} {b : UInt8}
    (hrun : run ≠ []) (h : encodeChar c = run ++ b :: rest) : 0x80 ≤ b.toNat := by
  have hmem : ∀ n k, ∀ x ∈ continuations n k, 0x80 ≤ x.toNat := by
    intro n k x hx
    induction k with
    | zero => simp [continuations] at hx
    | succ k ih =>
      rcases List.mem_cons.1 hx with rfl | hx
      · rw [toNat_continuation]
        omega
      · exact ih hx
  obtain ⟨x, run, rfl⟩ := List.exists_cons_of_ne_nil hrun
  by_cases hlt : c.toNat < 0x80
  · rw [encodeChar_one hlt, List.cons_append] at h
    simp at h
  · obtain ⟨x', p, hencode, -, -⟩ := exists_lead?_encodeChar (Nat.le_of_not_lt hlt)
    rw [hencode, List.cons_append] at h
    exact hmem _ _ b (by rw [(List.cons.inj h).2]; simp)

/-- An octet of ASCII goes on with no character. -/
theorem not_begins_concat_of_lt {run : List UInt8} {b : UInt8} (hrun : run ≠ [])
    (hb : b.toNat < 0x80) : ¬Begins (run ++ [b]) := by
  rintro ⟨c, rest, hencode⟩
  rw [List.append_assoc, List.singleton_append] at hencode
  exact absurd (le_of_encodeChar_eq_append hrun hencode.symm) (Nat.not_le.2 hb)

/-- Octets before one of ASCII fall into pieces by themselves; at most the flaw of the last run is
another. -/
theorem Segments.exists_append_cons {octets rest : List UInt8} {ps qs : List Piece} {b : UInt8}
    (h : Segments octets ps) (hb : b.toNat < 0x80) (hrest : Segments rest qs) :
    ∃ ps', ps'.map Piece.replaced = ps.map Piece.replaced ∧
      Segments (octets ++ b :: rest) (ps' ++ .char (Char.ofNat b.toNat) :: qs) := by
  induction h with
  | nil =>
    have hchar := Segments.char (c := Char.ofNat b.toNat) hrest
    rw [encodeChar_ofNat_toNat hb] at hchar
    exact ⟨[], rfl, hchar⟩
  | @char c octets ps _ ih =>
    obtain ⟨ps', hmap, hsegments⟩ := ih
    refine ⟨.char c :: ps', by rw [List.map_cons, hmap, List.map_cons], ?_⟩
    rw [List.append_assoc]
    exact .char hsegments
  | @ill run octets flaw ps hrun _ ih =>
    obtain ⟨ps', hmap, hsegments⟩ := ih
    obtain ⟨flaw', hrun'⟩ : ∃ flaw', IllFormed run (octets ++ b :: rest) flaw' := by
      cases hrun with
      | badStart hnot => exact ⟨_, .badStart hnot⟩
      | badContinuation hrun hnot => exact ⟨_, .badContinuation hrun hnot⟩
      | cutShort hrun => exact ⟨_, .badContinuation hrun (not_begins_concat_of_lt hrun.1 hb)⟩
    refine ⟨.ill run flaw' :: ps', by rw [List.map_cons, hmap]; rfl, ?_⟩
    rw [List.append_assoc]
    exact .ill hrun' hsegments

/-- **An octet of ASCII sets the octets on its two sides apart.** -/
theorem decodeReplacing_append_cons {b : UInt8} (hb : b.toNat < 0x80) (octets rest : List UInt8) :
    decodeReplacing (octets ++ b :: rest) =
      decodeReplacing octets ++ Char.ofNat b.toNat :: decodeReplacing rest := by
  obtain ⟨ps, hmap, hsegments⟩ :=
    (segments_pieces octets).exists_append_cons hb (segments_pieces rest)
  rw [decodeReplacing, ← segments_iff.1 hsegments, List.map_append, hmap, List.map_cons]
  rfl

theorem Segments.mem_of_char_mem {octets : List UInt8} {ps : List Piece} {c : Char}
    (h : Segments octets ps) (hc : .char c ∈ ps) : ∀ b ∈ encodeChar c, b ∈ octets := by
  intro b hb
  induction h with
  | nil => simp at hc
  | char _ ih =>
    rcases List.mem_cons.1 hc with heq | hc
    · obtain rfl := Piece.char.inj heq
      exact List.mem_append_left _ hb
    · exact List.mem_append_right _ (ih hc)
  | ill _ _ ih =>
    rcases List.mem_cons.1 hc with heq | hc
    · exact Piece.noConfusion heq
    · exact List.mem_append_right _ (ih hc)

/-- A decoded text holds a character of ASCII only where its octet stands. -/
theorem toUInt8_mem_of_mem_decodeReplacing {octets : List UInt8} {c : Char} (hc : c.toNat < 0x80)
    (h : c ∈ decodeReplacing octets) : c.toNat.toUInt8 ∈ octets := by
  obtain ⟨piece, hpiece, rfl⟩ := List.mem_map.1 h
  cases piece with
  | char c =>
    refine (segments_pieces octets).mem_of_char_mem hpiece _ ?_
    rw [show (Piece.char c).replaced = c from rfl] at hc ⊢
    rw [encodeChar_one hc]
    exact List.mem_singleton_self _
  | ill run flaw =>
    have hnot : ¬replacement.toNat < 0x80 := by decide
    exact absurd hc hnot

/-- A decoded text starts with a character of ASCII only when its octet comes first. -/
theorem head?_eq_of_head?_decodeReplacing {octets : List UInt8} {c : Char} (hc : c.toNat < 0x80)
    (h : (decodeReplacing octets).head? = some c) : octets.head? = some c.toNat.toUInt8 := by
  have hsegments := segments_pieces octets
  rw [decodeReplacing] at h
  generalize pieces octets = ps at h hsegments
  cases hsegments with
  | nil => simp at h
  | @char d =>
    obtain rfl : d = c := Option.some.inj h
    rw [encodeChar_one hc]
    rfl
  | ill =>
    obtain rfl : replacement = c := Option.some.inj h
    exact absurd hc (by decide)

/-- Where there are octets there is something decoded. -/
theorem decodeReplacing_ne_nil {octets : List UInt8} (h : octets ≠ []) :
    decodeReplacing octets ≠ [] := by
  intro hnil
  have hsegments := segments_pieces octets
  rw [List.map_eq_nil_iff.1 hnil] at hsegments
  cases hsegments
  exact h rfl

/-! ### Decoding that refuses ill-formed octets -/

/-- Octets that are those of a text. -/
def IsUtf8 (octets : List UInt8) : Prop := ∃ t, octets = encode t

/-- What is wrong with octets: the ill-formed run behind the longest text that they begin with. -/
def IsFault (octets : List UInt8) (f : Fault) : Prop :=
  ∃ t rest, octets = encode t ++ (f.octets ++ rest) ∧ f.position = (encode t).length ∧
    IllFormed f.octets rest f.flaw

theorem charsOrFault_map_char (position : ℕ) (t : Text) :
    charsOrFault position (t.map .char) = .ok t := by
  induction t generalizing position with
  | nil => rfl
  | cons c t ih => rw [List.map_cons, charsOrFault, ih]

/-- Pieces are those of a text, or there is a first ill-formed run among them. -/
theorem Segments.charsOrFault_eq {octets : List UInt8} {ps : List Piece} (h : Segments octets ps)
    (position : ℕ) :
    (∃ t, charsOrFault position ps = .ok t ∧ octets = encode t) ∨
      ∃ f t rest, charsOrFault position ps = .error f ∧ octets = encode t ++ (f.octets ++ rest) ∧
        f.position = position + (encode t).length ∧ IllFormed f.octets rest f.flaw := by
  induction h generalizing position with
  | nil => exact .inl ⟨[], rfl, rfl⟩
  | @char c octets ps _ ih =>
    rcases ih (position + (encodeChar c).length) with
      ⟨t, hchars, rfl⟩ | ⟨f, t, rest, hchars, rfl, hposition, hrun⟩
    · exact .inl ⟨c :: t, by rw [charsOrFault, hchars], rfl⟩
    · refine .inr ⟨f, c :: t, rest, by rw [charsOrFault, hchars], ?_, ?_, hrun⟩
      · rw [encode_cons, List.append_assoc]
      · rw [hposition, encode_cons, List.length_append, Nat.add_assoc]
  | @ill run octets flaw ps hrun _ ih =>
    exact .inr ⟨⟨position, run, flaw⟩, [], octets, rfl, rfl, rfl, hrun⟩

/-- What has been encoded is not refused. -/
theorem decodeStrict_encode (t : Text) : decodeStrict (encode t) = .ok t := by
  rw [decodeStrict, pieces_encode, charsOrFault_map_char]

/-- **Decoding refuses nothing but what is not UTF-8.** -/
theorem exists_decodeStrict_eq_ok_iff {octets : List UInt8} :
    (∃ t, decodeStrict octets = .ok t) ↔ IsUtf8 octets := by
  constructor
  · rintro ⟨t, ht⟩
    rcases (segments_pieces octets).charsOrFault_eq 0 with ⟨t', -, hoctets⟩ | ⟨f, _, _, hf, -⟩
    · exact ⟨t', hoctets⟩
    · rw [decodeStrict, hf] at ht
      cases ht
  · rintro ⟨t, rfl⟩
    exact ⟨t, decodeStrict_encode t⟩

/-- What is refused has the fault that is told. -/
theorem isFault_of_decodeStrict {octets : List UInt8} {f : Fault}
    (h : decodeStrict octets = .error f) : IsFault octets f := by
  rcases (segments_pieces octets).charsOrFault_eq 0 with
    ⟨t, ht, -⟩ | ⟨f', t, rest, hf, hoctets, hposition, hrun⟩
  · rw [decodeStrict, ht] at h
    cases h
  · rw [decodeStrict, hf] at h
    cases h
    exact ⟨t, rest, hoctets, hposition.trans (Nat.zero_add _), hrun⟩

/-- Octets with a fault are not UTF-8. -/
theorem IsFault.not_isUtf8 {octets : List UInt8} {f : Fault} (h : IsFault octets f) :
    ¬IsUtf8 octets := by
  rintro ⟨t', ht'⟩
  obtain ⟨t, rest, hoctets, -, hrun⟩ := h
  -- the machine finds the run, and no run in what has been encoded
  have hpieces := pieces_encode t'
  rw [← ht', hoctets, pieces_encode_append, hrun.pieces_append] at hpieces
  have hmem : Piece.ill f.octets f.flaw ∈ t'.map Piece.char := by
    rw [← hpieces]
    simp
  simp at hmem

end CommandScript.Text.Utf8
