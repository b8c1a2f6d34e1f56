import CommandScript.Shell.Program.Basic

/-!
# Octets as text

Octets are written as letters, six bits in each, and read back from them; or they are shown as
numbers or characters, so many in a line.
-/
namespace CommandScript.Shell

/-! ### Six bits at a time -/

/-- The letters for six bits. -/
def sixBitLetters : Array Char :=
  ("ABCDEFGHIJKLMNOPQRSTUVWXYZabcdefghijklmnopqrstuvwxyz0123456789+/".toList).toArray

/-- The number of a letter. -/
def sixBits? (c : Char) : Option Nat := sixBitLetters.toList.idxOf? c

/-- Octets as letters, three octets as four letters. -/
def encodeSixBits : Text → Text
  | a :: b :: c :: rest =>
    let n := a.toNat * 65536 + b.toNat * 256 + c.toNat
    [n / 262144, n / 4096 % 64, n / 64 % 64, n % 64].map (sixBitLetters.getD · '=') ++
      encodeSixBits rest
  | [a, b] =>
    let n := a.toNat * 65536 + b.toNat * 256
    [n / 262144, n / 4096 % 64, n / 64 % 64].map (sixBitLetters.getD · '=') ++ ['=']
  | [a] =>
    let n := a.toNat * 65536
    [n / 262144, n / 4096 % 64].map (sixBitLetters.getD · '=') ++ ['=', '=']
  | [] => []

/-- The octets that letters spell, in reverse, and whether all of them have been understood. -/
def decodeSixBits : Nat → Text → Text → Text × Bool
  | 0, done, _ => (done, false)
  | _, done, [] => (done, true)
  | fuel + 1, done, a :: rest =>
    let octet (n : Nat) : Char := Char.ofNat (n % 256)
    match sixBits? a, rest with
    | some x, b :: rest =>
      match sixBits? b, rest with
      | some y, '=' :: '=' :: rest => decodeSixBits fuel (octet (x * 4 + y / 16) :: done) rest
      | some y, c :: rest =>
        match sixBits? c, rest with
        | some z, '=' :: rest =>
          decodeSixBits fuel (octet (y * 16 + z / 4) :: octet (x * 4 + y / 16) :: done) rest
        | some z, d :: rest =>
          let done := octet (y * 16 + z / 4) :: octet (x * 4 + y / 16) :: done
          match sixBits? d with
          | some w => decodeSixBits fuel (octet (z * 64 + w) :: done) rest
          | none => (done, false)
        | some z, [] => (octet (y * 16 + z / 4) :: octet (x * 4 + y / 16) :: done, false)
        | none, _ => (octet (x * 4 + y / 16) :: done, false)
      | some y, [] => (octet (x * 4 + y / 16) :: done, false)
      | none, _ => (done, false)
    | _, _ => (done, false)

/-- A text in lines of a width, each with a line feed. -/
def inLines (width : Nat) : Nat → Text → Text
  | 0, _ => []
  | _, [] => []
  | n + 1, t => t.take width ++ '\n' :: inLines width n (t.drop width)

/-- The program `base64`. -/
def writeLetters : Utility :=
  let form : OptionForm := {
    name := "base64", plain := "di", valued := "w"
    long := [("decode", 'd'), ("ignore-garbage", 'i'), ("wrap", 'w')] }
  fun arguments ↦ form.choose arguments fun c ↦ do
    match c.others, numberOf? c 'w' 76 with
    | _ :: extra :: _, _ => form.misuse ("extra operand ".toList ++ curled extra)
    | _, none => failOf "base64" 1 ("invalid wrap size: ".toList ++ curled ((c.value? 'w').getD []))
    | names, some width =>
      let name := names.headD ['-']
      match ← readInput name with
      | .error f => failOf "base64" 1 (if f = .isDirectory then "read error: ".toList ++ f.words
          else fileFault name f)
      | .ok t =>
        if c.has 'd' then
          let letters := t.filter fun d ↦
            d != '\n' && (!c.has 'i' || d = '=' || (sixBits? d).isSome)
          let (octets, isWhole) := decodeSixBits (letters.length + 1) [] letters
          put octets.reverse
          if isWhole then return 0
          else failOf "base64" 1 "invalid input".toList
        else
          let letters := encodeSixBits t
          put (if width = 0 then letters else inLines width (letters.length + 1) letters)
          return 0

/-! ### Showing octets -/

/-- A form in which units of octets are shown. -/
structure UnitForm where
  /-- How many octets are in a unit. -/
  size : Nat
  /-- The width of a unit, without the blank before it. -/
  width : Nat
  /-- What is written for a unit. -/
  write : Text → Text

/-- The number that octets are, the least first. -/
def littleNumber (t : Text) : Nat := t.foldr (fun c n ↦ n * 256 + c.toNat) 0

/-- The names of the characters that do not show. -/
def controlNames : List String := [
  "nul", "soh", "stx", "etx", "eot", "enq", "ack", "bel", "bs", "ht", "nl", "vt", "ff", "cr", "so",
  "si", "dle", "dc1", "dc2", "dc3", "dc4", "nak", "syn", "etb", "can", "em", "sub", "esc",
  "fs", "gs", "rs", "us", "sp"]

/-- An octet as a character, by an escape, or by a number. -/
def shownCharacter (c : Char) : Text :=
  match c with
  | '\x00' => "\\0".toList
  | '\x07' => "\\a".toList
  | '\x08' => "\\b".toList
  | '\x0C' => "\\f".toList
  | '\n' => "\\n".toList
  | '\r' => "\\r".toList
  | '\t' => "\\t".toList
  | '\x0B' => "\\v".toList
  | c => if ' ' ≤ c ∧ c ≤ '~' then [c]
    else let digits := digitsIn 8 c.toNat
      List.replicate (3 - digits.length) '0' ++ digits

namespace UnitForm

/-- Numbers in a base with zeros in front. -/
def inBase (base size width : Nat) : UnitForm :=
  ⟨size, width, fun t ↦
    let digits := digitsIn base (littleNumber t)
    List.replicate (width - digits.length) '0' ++ digits⟩

/-- Numbers that may be negative. -/
def signed (size width : Nat) : UnitForm :=
  ⟨size, width, fun t ↦
    let n := littleNumber t
    Text.ofInt (if Nat.pow 2 (8 * size - 1) ≤ n then (n : Int) - Nat.pow 2 (8 * size) else n)⟩

/-- Numbers that are not negative. -/
def unsigned (size width : Nat) : UnitForm := ⟨size, width, fun t ↦ shown (littleNumber t)⟩

/-- Characters. -/
def characters : UnitForm := ⟨1, 3, fun t ↦ t.flatMap shownCharacter⟩

/-- Characters by their names. -/
def named : UnitForm := ⟨1, 3, fun t ↦ t.flatMap fun c ↦
  let n := c.toNat % 128
  if n = 127 then "del".toList else match controlNames[n]? with
    | some name => name.toList
    | none => [Char.ofNat n]⟩

/-- The form of a letter with units of a size. -/
def of? (letter : Char) (size : Nat) : Option UnitForm :=
  let place := [1, 2, 4, 8].idxOf? size
  let width (widths : List Nat) : Option Nat := place.bind fun i ↦ widths[i]?
  match letter with
  | 'o' => (width [3, 6, 11, 22]).map (inBase 8 size)
  | 'x' => (width [2, 4, 8, 16]).map (inBase 16 size)
  | 'd' => (width [4, 6, 11, 20]).map (signed size)
  | 'u' => (width [3, 5, 10, 20]).map (unsigned size)
  | _ => none

/-- The forms that a description names. -/
def readAll : Nat → Text → Option (List UnitForm)
  | 0, _ => none
  | _, [] => some []
  | n + 1, c :: rest =>
    if c = 'a' ∨ c = 'c' then
      (readAll n (rest.dropWhile (· = 'z'))).map fun forms ↦
        (if c = 'a' then named else characters) :: forms
    else
      let digits := rest.takeWhile Char.isDigit
      let after := rest.drop digits.length
      let (size, after) : Nat × Text := if !digits.isEmpty then (Text.digitsValue digits, after)
        else match after with
          | 'C' :: t => (1, t)
          | 'S' :: t => (2, t)
          | 'I' :: t => (4, t)
          | 'L' :: t => (8, t)
          | t => (4, t)
      match of? c size, readAll n (after.dropWhile (· = 'z')) with
      | some form, some forms => some (form :: forms)
      | _, _ => none

end UnitForm

/-- The forms that single letters of options stand for. -/
def letterForms : List (Char × UnitForm) := [
  ('a', .named), ('b', .inBase 8 1 3), ('c', .characters), ('d', .unsigned 2 5),
  ('i', .signed 4 11), ('l', .signed 8 20), ('o', .inBase 8 2 6), ('s', .signed 2 6),
  ('x', .inBase 16 2 4)]

/-- A block of octets in a form, with a filling that brings it to the width of other forms. -/
def showBlock (form : UnitForm) (perBlock blockWidth : Nat) (t : Text) : Text :=
  let fields := perBlock / form.size
  let filling := blockWidth - (form.width + 1) * fields
  let units := (t.length + form.size - 1) / form.size
  ((List.range units).flatMap fun i ↦
    let unit := (t.drop (i * form.size)).take form.size
    let unit := unit ++ List.replicate (form.size - unit.length) '\x00'
    let before := filling * (fields - i) / fields - filling * (fields - i - 1) / fields
    List.replicate (before + 1) ' ' ++ padStart form.width (form.write unit))

/-- An address in front of a line. -/
def shownAddress (base : Char) (n : Nat) : Text :=
  let zeros (width : Nat) (digits : Text) : Text :=
    List.replicate (width - digits.length) '0' ++ digits
  match base with
  | 'n' => []
  | 'd' => zeros 7 (shown n)
  | 'x' => zeros 6 (digitsIn 16 n)
  | _ => zeros 7 (digitsIn 8 n)

/-- The lines that show octets, where a row of equal lines is shown by an asterisk. -/
def showLines (base : Char) (forms : List UnitForm) (perBlock : Nat) (all : Bool) :
    Nat → Nat → Option Text → Bool → Text → Text
  | 0, _, _, _, _ => []
  | n + 1, place, last, starred, t =>
    if t.isEmpty then (if base = 'n' then [] else shownAddress base place ++ ['\n'])
    else
      let block := t.take perBlock
      let rest := t.drop perBlock
      if !all ∧ last = some block ∧ block.length = perBlock ∧ !rest.isEmpty then
        (if starred then [] else "*\n".toList) ++
          showLines base forms perBlock all n (place + perBlock) last true rest
      else
        let width := (forms.map fun form ↦ (form.width + 1) * (perBlock / form.size)).foldl max 0
        let lines := forms.zipIdx.flatMap fun (form, i) ↦
          let address := shownAddress base place
          (if i = 0 then address else List.replicate address.length ' ') ++
            showBlock form perBlock width block ++ ['\n']
        lines ++ showLines base forms perBlock all n (place + block.length) (some block) false rest

/-- The program `od`. -/
def showOctets : Utility :=
  let form : OptionForm := {
    name := "od", plain := "abcdilosxv", valued := "ANjtS", optional := "w"
    long := [("address-radix", 'A'), ("skip-bytes", 'j'), ("read-bytes", 'N'), ("format", 't'),
      ("output-duplicates", 'v'), ("width", 'w')] }
  fun arguments ↦ form.choose arguments fun c ↦ do
    let described : List (Option (List UnitForm)) := c.given.filterMap fun (letter, value) ↦
      if letter = 't' then some (UnitForm.readAll ((value.getD []).length + 1) (value.getD []))
      else (letterForms.lookup letter).map fun form ↦ some [form]
    match described.mapM id with
    | none => failOf "od" 1 ("invalid type string ".toList ++ curled ((c.value? 't').getD []))
    | some found =>
      let forms := if found.flatten.isEmpty then [UnitForm.inBase 8 2 6] else found.flatten
      let base := ((c.value? 'A').bind List.head?).getD 'o'
      if !"doxn".toList.contains base then
        failOf "od" 1 ("invalid output address radix '".toList ++ [base] ++
          "'; it must be one character from [doxn]".toList)
      else
        let (inputs, isWhole) ← readInputs "od" fileFault c.others
        let t := inputs.flatMap (·.2)
        let skip := ((c.value? 'j').bind sizedNumber?).getD 0
        if t.length < skip then
          failOf "od" 1 "cannot skip past end of combined input".toList
        else
          let t := t.drop skip
          let t := match (c.value? 'N').bind sizedNumber? with
            | some n => t.take n
            | none => t
          let width := if c.has 'w' then ((c.value? 'w').bind naturalNumber?).getD 32 else 16
          let most := (forms.map (·.size)).foldl max 1
          let width := if width % most = 0 ∧ width != 0 then width else most
          put (showLines base forms width (c.has 'v') (t.length + 2) skip none false t)
          return if isWhole then 0 else 1

end CommandScript.Shell
