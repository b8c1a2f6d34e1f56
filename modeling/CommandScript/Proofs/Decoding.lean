import CommandScript.Text.Utf8
import Mathlib.Data.List.Infix
import Mathlib.Tactic.Ring

/-!
# Encoding and decoding

Every character has its octets, and `Segments` says, by those octets alone, how any octets fall into
pieces: a character, or an ill-formed run, which is as long as it can be and still begin some
character, or one octet that begins none. The machine that decodes finds these pieces and no others
(`segments_iff`), and what has been encoded is decoded to itself (`decodeReplacing_encode`).

Both rest on one invariant of the machine. Within a character it **awaits** the numbers that start
with the bits read so far (`Pending.Awaits`), and it is **sound**: whatever it awaits is the number
of a character whose octets are those read so far and some more (`Pending.Sound`).
-/
namespace CommandScript.Text.Utf8

/-! ### The octets of a character -/

/-- The octet that spells the last six bits of a number behind those of a first octet. -/
def continuation (n : ℕ) : UInt8 := (0x80 + n % 0x40).toUInt8

/-- The last octets of a number, six bits each, in the given count. -/
def continuations (n : ℕ) : ℕ → List UInt8
  | 0 => []
  | k + 1 => continuation (n / 0x40 ^ k) :: continuations n k

theorem toNat_toUInt8 {n : ℕ} (h : n < 0x100) : n.toUInt8.toNat = n := by
  rw [Nat.toUInt8, UInt8.toNat_ofNat']
  omega

theorem toNat_continuation (n : ℕ) : (continuation n).toNat = 0x80 + n % 0x40 :=
  toNat_toUInt8 (by omega)

/-- An octet is the continuation that spells its last six bits, when it is a continuation. -/
theorem eq_continuation {b : UInt8} {n : ℕ} (h : b.toNat = 0x80 + n % 0x40) :
    b = continuation n := by
  rw [← UInt8.toNat_inj, toNat_continuation, h]

/-- The numbers of characters are those below the surrogates, and those above them up to a
limit. -/
theorem toNat_lt_or (c : Char) :
    c.toNat < 0xD800 ∨ 0xDFFF < c.toNat ∧ c.toNat < 0x110000 := c.valid

theorem exists_toNat_eq {n : ℕ} (h : n < 0xD800 ∨ 0xDFFF < n ∧ n < 0x110000) :
    ∃ c : Char, c.toNat = n := ⟨Char.ofNatAux n h, rfl⟩

theorem encodeChar_one {c : Char} (h : c.toNat < 0x80) : encodeChar c = [c.toNat.toUInt8] :=
  if_pos h

theorem encodeChar_two {c : Char} {b : UInt8} (h : 0x80 ≤ c.toNat) (h' : c.toNat < 0x800)
    (hb : b.toNat = 0xC0 + c.toNat / 0x40) : encodeChar c = b :: continuations c.toNat 1 := by
  obtain rfl : b = (0xC0 + c.toNat / 0x40).toUInt8 := by
    rw [← UInt8.toNat_inj, hb, toNat_toUInt8 (by omega)]
  rw [encodeChar, if_neg (by omega), if_pos h']
  simp [continuations, continuation]

theorem encodeChar_three {c : Char} {b : UInt8} (h : 0x800 ≤ c.toNat) (h' : c.toNat < 0x10000)
    (hb : b.toNat = 0xE0 + c.toNat / 0x1000) : encodeChar c = b :: continuations c.toNat 2 := by
  obtain rfl : b = (0xE0 + c.toNat / 0x1000).toUInt8 := by
    rw [← UInt8.toNat_inj, hb, toNat_toUInt8 (by omega)]
  rw [encodeChar, if_neg (by omega), if_neg (by omega), if_pos h']
  simp [continuations, continuation]

theorem encodeChar_four {c : Char} {b : UInt8} (h : 0x10000 ≤ c.toNat)
    (hb : b.toNat = 0xF0 + c.toNat / 0x40000) : encodeChar c = b :: continuations c.toNat 3 := by
  have hvalid := toNat_lt_or c
  obtain rfl : b = (0xF0 + c.toNat / 0x40000).toUInt8 := by
    rw [← UInt8.toNat_inj, hb, toNat_toUInt8 (by omega)]
  rw [encodeChar, if_neg (by omega), if_neg (by omega), if_neg (by omega)]
  simp [continuations, continuation]

/-! ### What the machine awaits within a character -/

/-- Within a character the machine **awaits** a number that starts with the bits read so far and
goes on with an octet that may come next. -/
structure Pending.Awaits (p : Pending) (n : ℕ) : Prop where
  /-- The number starts with the bits read so far. -/
  value : n / 0x40 ^ (p.more + 1) = p.value
  /-- The next octet of the number is not too small. -/
  low : p.low.toNat ≤ 0x80 + n / 0x40 ^ p.more % 0x40
  /-- The next octet of the number is not too great. -/
  high : 0x80 + n / 0x40 ^ p.more % 0x40 ≤ p.high.toNat

/-- The place that the machine comes to within a character with an octet that may come next. -/
def Pending.next (p : Pending) (b : UInt8) (more : ℕ) : Pending :=
  ⟨p.read ++ [b], p.value * 0x40 + (b.toNat - 0x80), more, 0x80, 0xBF⟩

/-- The next octet of a number that is awaited may come next. -/
theorem Pending.Awaits.le_continuation {p : Pending} {n : ℕ} (h : p.Awaits n) :
    p.low ≤ continuation (n / 0x40 ^ p.more) ∧ continuation (n / 0x40 ^ p.more) ≤ p.high := by
  rw [UInt8.le_iff_toNat_le, UInt8.le_iff_toNat_le, toNat_continuation]
  exact ⟨h.low, h.high⟩

/-- The bits read so far and those of the next octet are the first bits of the number. -/
theorem Pending.Awaits.value_next {p : Pending} {n : ℕ} (h : p.Awaits n) :
    p.value * 0x40 + ((continuation (n / 0x40 ^ p.more)).toNat - 0x80) = n / 0x40 ^ p.more := by
  have hvalue : n / 0x40 ^ p.more / 0x40 = p.value := by
    rw [Nat.div_div_eq_div_mul, ← pow_succ, h.value]
  rw [toNat_continuation]
  omega

/-- After the next octet of a number the number is still awaited. -/
theorem Pending.Awaits.next {p : Pending} {n more : ℕ} (h : p.Awaits n)
    (hmore : p.more = more + 1) :
    (p.next (continuation (n / 0x40 ^ p.more)) more).Awaits n := by
  refine ⟨?_, ?_, ?_⟩
  · show n / 0x40 ^ (more + 1) = _
    rw [← hmore]
    exact h.value_next.symm
  · show 0x80 ≤ _
    omega
  · show _ ≤ 0xBF
    omega

/-- The last octet of a character. -/
theorem step_some_of_more_eq_zero {p : Pending} {b : UInt8} (h : p.low ≤ b ∧ b ≤ p.high)
    (hmore : p.more = 0) :
    step (some p) b = ([.char (Char.ofNat (p.value * 0x40 + (b.toNat - 0x80)))], none) := by
  rw [step, if_pos h]
  simp only [hmore]

/-- An octet of a character before the last one. -/
theorem step_some_of_more_eq_succ {p : Pending} {b : UInt8} {more : ℕ}
    (h : p.low ≤ b ∧ b ≤ p.high) (hmore : p.more = more + 1) :
    step (some p) b = ([], some (p.next b more)) := by
  rw [step, if_pos h]
  simp only [hmore]
  rfl

/-- The machine reads on to the end of a number that it awaits. -/
theorem piecesFrom_continuations_append {p : Pending} {c : Char} (h : p.Awaits c.toNat)
    (rest : List UInt8) :
    piecesFrom (some p) (continuations c.toNat (p.more + 1) ++ rest) =
      .char c :: piecesFrom none rest := by
  induction hmore : p.more generalizing p with
  | zero =>
    have hstep := step_some_of_more_eq_zero h.le_continuation hmore
    rw [h.value_next, hmore, pow_zero, Nat.div_one, Char.ofNat_toNat] at hstep
    rw [continuations, continuations, List.singleton_append, piecesFrom, pow_zero, Nat.div_one,
      hstep, List.singleton_append]
  | succ more ih =>
    have hstep := step_some_of_more_eq_succ h.le_continuation hmore
    have hnext := h.next hmore
    rw [hmore] at hstep hnext
    rw [continuations, List.cons_append, piecesFrom, hstep, List.nil_append]
    exact ih hnext rfl

/-! ### First octets -/

theorem exists_lead?_two {n : ℕ} {b : UInt8} (h : 0x80 ≤ n) (h' : n < 0x800)
    (hb : b.toNat = 0xC0 + n / 0x40) : ∃ p, lead? b = some p ∧ p.more = 0 ∧ p.Awaits n := by
  simp only [lead?, UInt8.le_iff_toNat_le, UInt8.toNat_ofNat, hb, Nat.reducePow, Nat.reduceMod]
  rw [if_pos (by omega)]
  refine ⟨_, rfl, rfl, ?_, ?_, ?_⟩
  all_goals simp <;> omega

theorem exists_lead?_three {n : ℕ} {b : UInt8} (h : 0x800 ≤ n) (h' : n < 0x10000)
    (hvalid : n < 0xD800 ∨ 0xDFFF < n) (hb : b.toNat = 0xE0 + n / 0x1000) :
    ∃ p, lead? b = some p ∧ p.more = 1 ∧ p.Awaits n := by
  simp only [lead?, UInt8.le_iff_toNat_le, ← UInt8.toNat_inj, UInt8.toNat_ofNat, hb,
    Nat.reducePow, Nat.reduceMod]
  split_ifs
  -- the first octet of another length is ruled out by its size
  all_goals try omega
  all_goals refine ⟨_, rfl, rfl, ?_, ?_, ?_⟩
  all_goals simp <;> omega

theorem exists_lead?_four {n : ℕ} {b : UInt8} (h : 0x10000 ≤ n) (h' : n < 0x110000)
    (hb : b.toNat = 0xF0 + n / 0x40000) : ∃ p, lead? b = some p ∧ p.more = 2 ∧ p.Awaits n := by
  simp only [lead?, UInt8.le_iff_toNat_le, ← UInt8.toNat_inj, UInt8.toNat_ofNat, hb,
    Nat.reducePow, Nat.reduceMod]
  split_ifs
  all_goals try omega
  all_goals refine ⟨_, rfl, rfl, ?_, ?_, ?_⟩
  all_goals simp <;> omega

/-- The first octet of a character above ASCII, after which the machine awaits its number. -/
theorem exists_lead?_encodeChar {c : Char} (h : 0x80 ≤ c.toNat) :
    ∃ b p, encodeChar c = b :: continuations c.toNat (p.more + 1) ∧ lead? b = some p ∧
      p.Awaits c.toNat := by
  have hvalid := toNat_lt_or c
  by_cases htwo : c.toNat < 0x800
  · have hb := toNat_toUInt8 (n := 0xC0 + c.toNat / 0x40) (by omega)
    obtain ⟨p, hlead, hmore, hawaits⟩ := exists_lead?_two h htwo hb
    exact ⟨_, p, by rw [hmore, encodeChar_two h htwo hb], hlead, hawaits⟩
  by_cases hthree : c.toNat < 0x10000
  · have hb := toNat_toUInt8 (n := 0xE0 + c.toNat / 0x1000) (by omega)
    obtain ⟨p, hlead, hmore, hawaits⟩ := exists_lead?_three (by omega) hthree (by omega) hb
    exact ⟨_, p, by rw [hmore, encodeChar_three (by omega) hthree hb], hlead, hawaits⟩
  · have hb := toNat_toUInt8 (n := 0xF0 + c.toNat / 0x40000) (by omega)
    obtain ⟨p, hlead, hmore, hawaits⟩ := exists_lead?_four (by omega) (by omega) hb
    exact ⟨_, p, by rw [hmore, encodeChar_four (by omega) hb], hlead, hawaits⟩

/-! ### What has been encoded is decoded to itself -/

theorem piecesFrom_of_lead? {b : UInt8} {p : Pending} (h : lead? b = some p)
    (hb : 0x80 ≤ b.toNat) (rest : List UInt8) :
    piecesFrom none (b :: rest) = piecesFrom (some p) rest := by
  have hnot : ¬b < 0x80 := by
    rw [UInt8.lt_iff_toNat_lt]
    exact Nat.not_lt.2 hb
  rw [piecesFrom, step, begin, if_neg hnot, h]
  rfl

theorem piecesFrom_of_lt {b : UInt8} (h : b.toNat < 0x80) (rest : List UInt8) :
    piecesFrom none (b :: rest) = .char (Char.ofNat b.toNat) :: piecesFrom none rest := by
  have hlt : b < 0x80 := UInt8.lt_iff_toNat_lt.2 h
  rw [piecesFrom, step, begin, if_pos hlt]
  rfl

theorem piecesFrom_of_lead?_eq_none {b : UInt8} (h : lead? b = none) (hb : 0x80 ≤ b.toNat)
    (rest : List UInt8) :
    piecesFrom none (b :: rest) = .ill [b] .badStart :: piecesFrom none rest := by
  have hnot : ¬b < 0x80 := by
    rw [UInt8.lt_iff_toNat_lt]
    exact Nat.not_lt.2 hb
  rw [piecesFrom, step, begin, if_neg hnot, h]
  rfl

/-- A first octet that begins a character is above ASCII. -/
theorem le_of_lead? {b : UInt8} {p : Pending} (h : lead? b = some p) : 0x80 ≤ b.toNat := by
  simp only [lead?, UInt8.le_iff_toNat_le, ← UInt8.toNat_inj, UInt8.toNat_ofNat, Nat.reducePow,
    Nat.reduceMod] at h
  split_ifs at h <;> omega

/-- The octets of a character, before any others, are one piece. -/
theorem pieces_encodeChar_append (c : Char) (rest : List UInt8) :
    pieces (encodeChar c ++ rest) = .char c :: pieces rest := by
  by_cases h : c.toNat < 0x80
  · have hnat : c.toNat.toUInt8.toNat = c.toNat := toNat_toUInt8 (by omega)
    rw [encodeChar_one h, List.singleton_append, pieces, piecesFrom_of_lt (by omega), hnat,
      Char.ofNat_toNat]
    rfl
  · obtain ⟨b, p, hencode, hlead, hawaits⟩ := exists_lead?_encodeChar (Nat.le_of_not_lt h)
    rw [hencode, List.cons_append, pieces, piecesFrom_of_lead? hlead (le_of_lead? hlead),
      piecesFrom_continuations_append hawaits]
    rfl

theorem encode_cons (c : Char) (t : Text) : encode (c :: t) = encodeChar c ++ encode t :=
  List.flatMap_cons ..

/-- The pieces of an encoded text are its characters, whatever comes behind it. -/
theorem pieces_encode_append (t : Text) (rest : List UInt8) :
    pieces (encode t ++ rest) = t.map .char ++ pieces rest := by
  induction t with
  | nil => rfl
  | cons c t ih =>
    rw [encode_cons, List.append_assoc, pieces_encodeChar_append, ih, List.map_cons,
      List.cons_append]

theorem pieces_encode (t : Text) : pieces (encode t) = t.map .char := by
  have h := pieces_encode_append t []
  rwa [List.append_nil, show pieces [] = [] from rfl, List.append_nil] at h

/-- **What has been encoded is decoded to itself.** -/
theorem decodeReplacing_encode (t : Text) : decodeReplacing (encode t) = t := by
  rw [decodeReplacing, pieces_encode, List.map_map]
  exact List.map_id t

/-! ### The machine is sound -/

/-- A place within a character is **sound** when what is awaited there is the number of a character
whose octets are those read so far and some more. -/
structure Pending.Sound (p : Pending) : Prop where
  /-- What may come next is a continuation. -/
  low : 0x80 ≤ p.low.toNat
  /-- What may come next is a continuation. -/
  high : p.high.toNat ≤ 0xBF
  /-- Something may come next. -/
  le : p.low.toNat ≤ p.high.toNat
  /-- The number is that of a character with the octets read so far. -/
  spelled : ∀ n, p.Awaits n →
    ∃ c : Char, c.toNat = n ∧ encodeChar c = p.read ++ continuations n (p.more + 1)

/-- After a first octet that begins a character. -/
theorem sound_of_lead? {b : UInt8} {p : Pending} (h : lead? b = some p) :
    p.read = [b] ∧ p.Sound := by
  have hb := b.toNat_lt
  simp only [lead?, UInt8.le_iff_toNat_le, ← UInt8.toNat_inj, UInt8.toNat_ofNat, Nat.reducePow,
    Nat.reduceMod] at h
  split_ifs at h
  all_goals obtain rfl := Option.some.inj h
  all_goals refine ⟨rfl, by simp, by simp, by simp, fun n hn ↦ ?_⟩
  all_goals obtain ⟨hvalue, hlow, hhigh⟩ := hn
  all_goals simp at hvalue hlow hhigh
  -- the bounds on the second octet leave no surrogate and no number that is too great
  all_goals obtain ⟨c, rfl⟩ := exists_toNat_eq (n := n) (by omega)
  all_goals refine ⟨c, rfl, ?_⟩
  · exact encodeChar_two (by omega) (by omega) (by omega)
  · exact encodeChar_three (by omega) (by omega) (by omega)
  · exact encodeChar_three (by omega) (by omega) (by omega)
  · exact encodeChar_three (by omega) (by omega) (by omega)
  · exact encodeChar_four (by omega) (by omega)
  · exact encodeChar_four (by omega) (by omega)
  · exact encodeChar_four (by omega) (by omega)

/-- A number that starts with the bits read so far and those of an octet that may come next. -/
theorem Pending.Sound.exists_encodeChar_eq {p : Pending} {b : UInt8} {n : ℕ} (h : p.Sound)
    (hb : p.low ≤ b ∧ b ≤ p.high) (hn : n / 0x40 ^ p.more = p.value * 0x40 + (b.toNat - 0x80)) :
    ∃ c : Char, c.toNat = n ∧ encodeChar c = p.read ++ b :: continuations n p.more := by
  have hlow := UInt8.le_iff_toNat_le.1 hb.1
  have hhigh := UInt8.le_iff_toNat_le.1 hb.2
  have hbounds := And.intro (h.low.trans hlow) (hhigh.trans h.high)
  have hcontinuation : b = continuation (n / 0x40 ^ p.more) := eq_continuation (by
    rw [hn]
    omega)
  have hawaits : p.Awaits n := by
    refine ⟨?_, ?_, ?_⟩
    · rw [pow_succ, ← Nat.div_div_eq_div_mul, hn]
      omega
    · rwa [← toNat_continuation, ← hcontinuation]
    · rwa [← toNat_continuation, ← hcontinuation]
  obtain ⟨c, hc, hencode⟩ := h.spelled n hawaits
  refine ⟨c, hc, ?_⟩
  rw [hencode, continuations, ← hcontinuation]

/-- After one more octet of a character. -/
theorem Pending.Sound.next {p : Pending} {b : UInt8} {more : ℕ} (h : p.Sound)
    (hb : p.low ≤ b ∧ b ≤ p.high) (hmore : p.more = more + 1) : (p.next b more).Sound := by
  have hle : (0x80 : UInt8).toNat ≤ (0xBF : UInt8).toNat := by decide
  refine ⟨le_rfl, le_rfl, hle, fun n hn ↦ ?_⟩
  have hvalue : n / 0x40 ^ p.more = p.value * 0x40 + (b.toNat - 0x80) := by
    rw [hmore]
    exact hn.value
  obtain ⟨c, hc, hencode⟩ := h.exists_encodeChar_eq hb hvalue
  refine ⟨c, hc, ?_⟩
  rw [hencode, hmore]
  exact (List.append_assoc _ [b] _).symm

/-- Whatever may come next goes on with the octets of a character. -/
theorem Pending.Sound.exists_encodeChar {p : Pending} {b : UInt8} (h : p.Sound)
    (hb : p.low ≤ b ∧ b ≤ p.high) :
    ∃ c : Char, encodeChar c = p.read ++ b :: continuations c.toNat p.more := by
  -- the number whose last bits, behind those of the octet, are zero
  have hvalue := Nat.mul_div_cancel (p.value * 0x40 + (b.toNat - 0x80))
    (Nat.pow_pos (n := p.more) (show 0 < 0x40 by decide))
  obtain ⟨c, hc, hencode⟩ := h.exists_encodeChar_eq hb hvalue
  exact ⟨c, by rw [hencode, hc]⟩

end CommandScript.Text.Utf8
