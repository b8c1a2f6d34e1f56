import CommandScript.Text.Blank

/-!
# UTF-8

Encoding, and decoding by a machine that reads one octet at a time. The machine cuts every octet
sequence, well formed or not, into pieces: a **character**, or an **ill-formed run**, which is a
maximal initial part of some character's octets, or one octet that starts none. An octet that
ends an ill-formed run is read again from the start, so no octet is lost and none is read into two
pieces.

Two readings of the pieces are used: `decodeReplacing` puts one replacement character for each
ill-formed run, `decodeStrict` stops at the first of them and says where and why.
-/
namespace CommandScript.Text.Utf8

/-- The octets of one character. -/
def encodeChar (c : Char) : List UInt8 :=
  let n := c.toNat
  if n < 0x80 then [n.toUInt8]
  else if n < 0x800 then [(0xC0 + n / 0x40).toUInt8, (0x80 + n % 0x40).toUInt8]
  else if n < 0x10000 then
    [(0xE0 + n / 0x1000).toUInt8, (0x80 + n / 0x40 % 0x40).toUInt8, (0x80 + n % 0x40).toUInt8]
  else
    [(0xF0 + n / 0x40000).toUInt8, (0x80 + n / 0x1000 % 0x40).toUInt8,
      (0x80 + n / 0x40 % 0x40).toUInt8, (0x80 + n % 0x40).toUInt8]

/-- The octets of a text. -/
def encode (t : Text) : List UInt8 := t.flatMap encodeChar

/-- Why a run of octets is ill formed. -/
inductive Flaw where
  /-- The octet starts no character. -/
  | badStart
  /-- A character has begun, and the octet after the run cannot continue it. -/
  | badContinuation
  /-- A character has begun, and the octets end. -/
  | cutShort
  deriving DecidableEq, Repr

/-- One piece of an octet sequence. -/
inductive Piece where
  /-- A well-formed character. -/
  | char (c : Char)
  /-- An ill-formed run of octets, with its flaw. -/
  | ill (octets : List UInt8) (flaw : Flaw)
  deriving DecidableEq, Repr

/-- A character that has begun and is not complete. -/
structure Pending where
  /-- The octets read so far, in order. -/
  read : List UInt8
  /-- The number that the bits read so far spell. -/
  value : Nat
  /-- How many octets are due after the next one. -/
  more : Nat
  /-- The least octet that may come next. -/
  low : UInt8
  /-- The greatest octet that may come next. -/
  high : UInt8
  deriving DecidableEq, Repr

/-- Where the machine stands between two octets: at the start of a character, or within one. -/
abbrev State := Option Pending

/-- What a leading octet above ASCII begins. The bounds on the second octet rule out overlong
forms, surrogates and numbers above the last character. -/
def lead? (b : UInt8) : Option Pending :=
  if 0xC2 ≤ b ∧ b ≤ 0xDF then some ⟨[b], b.toNat - 0xC0, 0, 0x80, 0xBF⟩
  else if b = 0xE0 then some ⟨[b], 0, 1, 0xA0, 0xBF⟩
  else if b = 0xED then some ⟨[b], 0x0D, 1, 0x80, 0x9F⟩
  else if 0xE1 ≤ b ∧ b ≤ 0xEF then some ⟨[b], b.toNat - 0xE0, 1, 0x80, 0xBF⟩
  else if b = 0xF0 then some ⟨[b], 0, 2, 0x90, 0xBF⟩
  else if 0xF1 ≤ b ∧ b ≤ 0xF3 then some ⟨[b], b.toNat - 0xF0, 2, 0x80, 0xBF⟩
  else if b = 0xF4 then some ⟨[b], 4, 2, 0x80, 0x8F⟩
  else none

/-- One octet at the start of a character. -/
def begin (b : UInt8) : List Piece × State :=
  if b < 0x80 then ([.char (Char.ofNat b.toNat)], none)
  else match lead? b with
    | some p => ([], some p)
    | none => ([.ill [b] .badStart], none)

/-- One octet: the pieces that it completes, and where the machine stands after it. -/
def step : State → UInt8 → List Piece × State
  | none, b => begin b
  | some p, b =>
    if p.low ≤ b ∧ b ≤ p.high then
      let value := p.value * 0x40 + (b.toNat - 0x80)
      match p.more with
      | 0 => ([.char (Char.ofNat value)], none)
      | more + 1 => ([], some ⟨p.read ++ [b], value, more, 0x80, 0xBF⟩)
    else (.ill p.read .badContinuation :: (begin b).1, (begin b).2)

/-- The piece that the end of the octets leaves. -/
def finish : State → List Piece
  | none => []
  | some p => [.ill p.read .cutShort]

/-- The pieces of an octet sequence from a state on. -/
def piecesFrom : State → List UInt8 → List Piece
  | s, [] => finish s
  | s, b :: rest => (step s b).1 ++ piecesFrom (step s b).2 rest

/-- The pieces of an octet sequence. -/
def pieces (octets : List UInt8) : List Piece := piecesFrom none octets

/-- The replacement character. -/
def replacement : Char := '\uFFFD'

/-- The character a piece stands for when ill-formed runs are replaced. -/
def Piece.replaced : Piece → Char
  | .char c => c
  | .ill _ _ => replacement

/-- Decoding that never fails: each ill-formed run gives one replacement character. -/
def decodeReplacing (octets : List UInt8) : Text := (pieces octets).map Piece.replaced

/-- The first ill-formed run of an octet sequence. -/
structure Fault where
  /-- How many octets stand before the run. -/
  position : Nat
  /-- The octets of the run. -/
  octets : List UInt8
  /-- What is wrong with it. -/
  flaw : Flaw
  deriving DecidableEq, Repr

/-- The text that pieces spell, when all of them are characters; `position` counts the octets
before the first piece. -/
def charsOrFault : Nat → List Piece → Except Fault Text
  | _, [] => .ok []
  | position, .char c :: rest =>
    match charsOrFault (position + (encodeChar c).length) rest with
    | .ok t => .ok (c :: t)
    | .error f => .error f
  | position, .ill octets flaw :: _ => .error ⟨position, octets, flaw⟩

/-- Decoding that refuses ill-formed octets. -/
def decodeStrict (octets : List UInt8) : Except Fault Text := charsOrFault 0 (pieces octets)

/-- A lower-case hexadecimal digit. -/
def hexDigit (n : Nat) : Char := Nat.digitChar (n % 16)

/-- An octet as two hexadecimal digits. -/
def hexOctet (b : UInt8) : Text := [hexDigit (b.toNat / 16), hexDigit b.toNat]

/-- The words for a flaw. -/
def Flaw.message : Flaw → Text
  | .badStart => "invalid start byte".toList
  | .badContinuation => "invalid continuation byte".toList
  | .cutShort => "unexpected end of data".toList

/-- The message of a fault: one octet is shown by value, several by their positions. -/
def Fault.message (f : Fault) : Text :=
  let start := (toString f.position).toList
  let subject := match f.octets with
    | [b] => "byte 0x".toList ++ hexOctet b ++ " in position ".toList ++ start
    | octets =>
      "bytes in position ".toList ++ start ++ "-".toList ++
        (toString (f.position + octets.length - 1)).toList
  "'utf-8' codec can't decode ".toList ++ subject ++ ": ".toList ++ f.flaw.message

end CommandScript.Text.Utf8
