import CommandScript.Shell.Program.Basic

/-!
# Digests

A digest is computed from the octets of a text in blocks of sixteen words, after the octets have
been filled up with their count. Each of the three digests mixes the words of a block into a state
in rounds of its own. A check sum is the remainder of a division of polynomials.
-/
namespace CommandScript.Shell

/-! ### Blocks -/

/-- A word of thirty-two bits turned to the left. -/
def turnLeft (x : UInt32) (n : UInt32) : UInt32 := (x <<< n) ||| (x >>> (32 - n))

/-- A word of thirty-two bits turned to the right. -/
def turnRight (x : UInt32) (n : UInt32) : UInt32 := (x >>> n) ||| (x <<< (32 - n))

/-- The octets of a number, the greatest first, with a count of octets. -/
def bigOctets : Nat → Nat → List UInt8
  | 0, _ => []
  | n + 1, value => bigOctets n (value / 256) ++ [(value % 256).toUInt8]

/-- Octets filled up with a mark, zeros and their count in bits, to whole blocks. -/
def filledUp (bigFirst : Bool) (octets : List UInt8) : List UInt8 :=
  let zeros := (119 - octets.length % 64) % 64
  let count := bigOctets 8 (octets.length * 8)
  octets ++ 0x80 :: List.replicate zeros 0 ++ if bigFirst then count else count.reverse

/-- The words that octets make, four by four. -/
def wordsOfOctets (bigFirst : Bool) : List UInt8 → List UInt32
  | a :: b :: c :: d :: rest =>
    let (a, b, c, d) := if bigFirst then (a, b, c, d) else (d, c, b, a)
    ((a.toUInt32 <<< 24) ||| (b.toUInt32 <<< 16) ||| (c.toUInt32 <<< 8) ||| d.toUInt32) ::
      wordsOfOctets bigFirst rest
  | _ => []

/-- The blocks of sixteen words that a list is made of. -/
def blocksOf : Nat → List UInt32 → List (Array UInt32)
  | 0, _ => []
  | _, [] => []
  | n + 1, words => (words.take 16).toArray :: blocksOf n (words.drop 16)

/-- The state after all blocks of octets. -/
def digestBy (bigFirst : Bool) (start : Array UInt32)
    (step : Array UInt32 → Array UInt32 → Array UInt32) (octets : List UInt8) : Array UInt32 :=
  let words := wordsOfOctets bigFirst (filledUp bigFirst octets)
  (blocksOf (words.length + 1) words).foldl
    (fun state block ↦ Array.zipWith (· + ·) state (step state block)) start

/-- The octets of words as hexadecimal digits. -/
def hexWords (bigFirst : Bool) (words : Array UInt32) : Text :=
  words.toList.flatMap fun w ↦
    let octets := bigOctets 4 w.toNat
    (if bigFirst then octets else octets.reverse).flatMap fun o ↦
      [Nat.digitChar (o.toNat / 16), Nat.digitChar (o.toNat % 16)]

/-- A word of an array. -/
def wordAt (words : Array UInt32) (i : Nat) : UInt32 := words.getD i 0

/-! ### The digest of 128 bits -/

/-- The words that are added in the rounds: the sines of the numbers from one on. -/
def sineWords : Array UInt32 := #[
  0xd76aa478, 0xe8c7b756, 0x242070db, 0xc1bdceee, 0xf57c0faf, 0x4787c62a, 0xa8304613, 0xfd469501,
  0x698098d8, 0x8b44f7af, 0xffff5bb1, 0x895cd7be, 0x6b901122, 0xfd987193, 0xa679438e, 0x49b40821,
  0xf61e2562, 0xc040b340, 0x265e5a51, 0xe9b6c7aa, 0xd62f105d, 0x02441453, 0xd8a1e681, 0xe7d3fbc8,
  0x21e1cde6, 0xc33707d6, 0xf4d50d87, 0x455a14ed, 0xa9e3e905, 0xfcefa3f8, 0x676f02d9, 0x8d2a4c8a,
  0xfffa3942, 0x8771f681, 0x6d9d6122, 0xfde5380c, 0xa4beea44, 0x4bdecfa9, 0xf6bb4b60, 0xbebfbc70,
  0x289b7ec6, 0xeaa127fa, 0xd4ef3085, 0x04881d05, 0xd9d4d039, 0xe6db99e5, 0x1fa27cf8, 0xc4ac5665,
  0xf4292244, 0x432aff97, 0xab9423a7, 0xfc93a039, 0x655b59c3, 0x8f0ccc92, 0xffeff47d, 0x85845dd1,
  0x6fa87e4f, 0xfe2ce6e0, 0xa3014314, 0x4e0811a1, 0xf7537e82, 0xbd3af235, 0x2ad7d2bb, 0xeb86d391]

/-- By how much words are turned in the rounds, four by four. -/
def sineTurns : Array UInt32 := #[7, 12, 17, 22, 5, 9, 14, 20, 4, 11, 16, 23, 6, 10, 15, 21]

/-- The rounds over a block. -/
def sineRounds (state block : Array UInt32) : Array UInt32 :=
  (List.range 64).foldl (fun s i ↦
    let (a, b, c, d) := (wordAt s 0, wordAt s 1, wordAt s 2, wordAt s 3)
    let (f, k) : UInt32 × Nat :=
      if i < 16 then ((b &&& c) ||| (~~~b &&& d), i)
      else if i < 32 then ((d &&& b) ||| (~~~d &&& c), (5 * i + 1) % 16)
      else if i < 48 then (b ^^^ c ^^^ d, (3 * i + 5) % 16)
      else (c ^^^ (b ||| ~~~d), (7 * i) % 16)
    let turn := wordAt sineTurns (i / 16 * 4 + i % 4)
    #[d, b + turnLeft (a + f + wordAt sineWords i + wordAt block k) turn, b, c]) state

/-- The digest of 128 bits. -/
def digest128 (octets : List UInt8) : Text :=
  let start : Array UInt32 := #[0x67452301, 0xefcdab89, 0x98badcfe, 0x10325476]
  hexWords false (digestBy false start sineRounds octets)

/-! ### The digest of 160 bits -/

/-- The words of a block with those that follow from them. -/
def longBlock (block : Array UInt32) : Array UInt32 :=
  (List.range 64).foldl (fun w (k : Nat) ↦
    let i := k + 16
    w.push (turnLeft (wordAt w (i - 3) ^^^ wordAt w (i - 8) ^^^ wordAt w (i - 14) ^^^
      wordAt w (i - 16)) 1)) block

/-- The rounds over a block. -/
def longRounds (state block : Array UInt32) : Array UInt32 :=
  let w := longBlock block
  (List.range 80).foldl (fun s i ↦
    let (a, b, c, d, e) := (wordAt s 0, wordAt s 1, wordAt s 2, wordAt s 3, wordAt s 4)
    let (f, k) : UInt32 × UInt32 :=
      if i < 20 then ((b &&& c) ||| (~~~b &&& d), 0x5a827999)
      else if i < 40 then (b ^^^ c ^^^ d, 0x6ed9eba1)
      else if i < 60 then ((b &&& c) ||| (b &&& d) ||| (c &&& d), 0x8f1bbcdc)
      else (b ^^^ c ^^^ d, 0xca62c1d6)
    #[turnLeft a 5 + f + e + k + wordAt w i, a, turnLeft b 30, c, d]) state

/-- The digest of 160 bits. -/
def digest160 (octets : List UInt8) : Text :=
  hexWords true (digestBy true #[0x67452301, 0xefcdab89, 0x98badcfe, 0x10325476, 0xc3d2e1f0]
    longRounds octets)

/-! ### The digest of 256 bits -/

/-- The first primes. -/
def firstPrimes : List Nat :=
  ((List.range 312).filter fun n ↦ 2 ≤ n && (List.range n).all fun d ↦ d < 2 || n % d != 0)

/-- The greatest number whose power is not above another number, by halves. -/
def rootBelow (power : Nat) (n : Nat) : Nat → Nat → Nat → Nat
  | 0, low, _ => low
  | fuel + 1, low, high =>
    let middle := (low + high) / 2
    if Nat.pow middle power ≤ n then rootBelow power n fuel middle high
    else rootBelow power n fuel low middle

/-- The first thirty-two bits after the point of the root of a prime. -/
def rootBits (power prime : Nat) : UInt32 :=
  (rootBelow power (prime * Nat.pow 2 (32 * power)) 40 0 (Nat.pow 2 40)).toUInt32

/-- The words that are added in the rounds: the cube roots of the first primes. -/
def cubeWords : Array UInt32 := ((firstPrimes.take 64).map (rootBits 3)).toArray

/-- The state at the start: the square roots of the first primes. -/
def squareWords : Array UInt32 := ((firstPrimes.take 8).map (rootBits 2)).toArray

/-- The words of a block with those that follow from them. -/
def primeBlock (block : Array UInt32) : Array UInt32 :=
  (List.range 48).foldl (fun w (k : Nat) ↦
    let i := k + 16
    let (x, y) := (wordAt w (i - 15), wordAt w (i - 2))
    let s := turnRight x 7 ^^^ turnRight x 18 ^^^ (x >>> 3)
    let s' := turnRight y 17 ^^^ turnRight y 19 ^^^ (y >>> 10)
    w.push (wordAt w (i - 16) + s + wordAt w (i - 7) + s')) block

/-- The rounds over a block. -/
def primeRounds (state block : Array UInt32) : Array UInt32 :=
  let w := primeBlock block
  (List.range 64).foldl (fun s i ↦
    let (a, b, c, d) := (wordAt s 0, wordAt s 1, wordAt s 2, wordAt s 3)
    let (e, f, g, h) := (wordAt s 4, wordAt s 5, wordAt s 6, wordAt s 7)
    let mixed := turnRight e 6 ^^^ turnRight e 11 ^^^ turnRight e 25
    let t := h + mixed + ((e &&& f) ^^^ (~~~e &&& g)) + wordAt cubeWords i + wordAt w i
    let mixed' := turnRight a 2 ^^^ turnRight a 13 ^^^ turnRight a 22
    let t' := mixed' + ((a &&& b) ^^^ (a &&& c) ^^^ (b &&& c))
    #[t + t', a, b, c, d + t, e, f, g]) state

/-- The digest of 256 bits. -/
def digest256 (octets : List UInt8) : Text :=
  hexWords true (digestBy true squareWords primeRounds octets)

/-! ### Programs for digests -/

/-- A name without characters that would be taken for others, and whether it had any. -/
def plainName (name : Text) : Text × Bool :=
  (name.flatMap fun c ↦ if c = '\n' then "\\n".toList else if c = '\\' then "\\\\".toList
    else if c = '\r' then "\\r".toList else [c],
    name.any fun c ↦ c = '\n' || c = '\\' || c = '\r')

/-- The digest and the name in a line of a list of digests. -/
def readDigestLine (length : Nat) (line : Text) : Option (Text × Text) :=
  let digest := line.take length
  let isHex (c : Char) : Bool := c.isDigit || "abcdefABCDEF".toList.contains c
  match line.drop length with
  | ' ' :: mark :: name =>
    if digest.length = length ∧ digest.all isHex ∧ (mark = ' ' ∨ mark = '*') ∧ !name.isEmpty then
      some (digest.map Char.toLower, name)
    else none
  | _ => none

/-- Tells of how many there are that something holds. -/
def tellCount (program : String) (n : Nat) (one many : String) : Act Unit := do
  if n != 0 then
    tellOf program ("WARNING: ".toList ++ shown n ++ ' ' :: (if n = 1 then one else many).toList)

/-- Checks the digests in a list. -/
def checkDigests (program : String) (digest : List UInt8 → Text) (c : Choices) (name t : Text) :
    Act Bool := do
  let length := (digest []).length
  let mut right := 0
  let mut wrong := 0
  let mut unread := 0
  let mut strange := 0
  for line in linesOf t do
    match readDigestLine length line with
    | none => if !line.isEmpty ∧ line.head? != some '#' then strange := strange + 1
    | some (expected, file) =>
      match ← readInput file with
      | .error f =>
        if !c.has 'S' then
          tellOf program (fileFault file f)
          putLine (file ++ ": FAILED open or read".toList)
        unread := unread + 1
      | .ok t =>
        if digest (ofOctets t) = expected then
          right := right + 1
          if !c.has 'q' ∧ !c.has 'S' then putLine (file ++ ": OK".toList)
        else
          wrong := wrong + 1
          if !c.has 'S' then putLine (file ++ ": FAILED".toList)
  if right + wrong + unread = 0 then
    tellOf program (shownFile name ++ ": no properly formatted checksum lines found".toList)
    return false
  if !c.has 'S' then
    tellCount program strange "line is improperly formatted" "lines are improperly formatted"
    tellCount program unread "listed file could not be read" "listed files could not be read"
    tellCount program wrong "computed checksum did NOT match" "computed checksums did NOT match"
  return wrong = 0 && unread = 0

/-- A program that writes the digests of files, or checks those in lists. -/
def writeDigests (program label : String) (digest : List UInt8 → Text) : Utility :=
  let form : OptionForm := {
    name := program, plain := "bctwzqSTi"
    long := [("binary", 'b'), ("check", 'c'), ("tag", 'T'), ("text", 't'), ("zero", 'z'),
      ("quiet", 'q'), ("status", 'S'), ("strict", 'x'), ("warn", 'w'), ("ignore-missing", 'i')] }
  fun arguments ↦ form.choose arguments fun c ↦ do
    let mut status := 0
    for name in orInput c.others do
      match ← readInput name with
      | .error f =>
        tellOf program (fileFault name f)
        status := 1
      | .ok t =>
        if c.has 'c' then
          if !(← checkDigests program digest c name t) then status := 1
        else
          let (shownAs, isChanged) := if c.has 'z' then (name, false) else plainName name
          let start : Text := if isChanged then ['\\'] else []
          let ending := if c.has 'z' then ['\x00'] else ['\n']
          if c.has 'T' then
            put (start ++ label.toList ++ " (".toList ++ shownAs ++ ") = ".toList ++
              digest (ofOctets t) ++ ending)
          else put (start ++ digest (ofOctets t) ++
            ' ' :: (if c.has 'b' then '*' else ' ') :: shownAs ++
            ending)
    return status

/-! ### Check sums -/

/-- What is left of a polynomial of eight bits that is divided, at the upper end of a word. -/
def remainderOf (octet : Nat) : UInt32 :=
  (List.range 8).foldl (fun (x : UInt32) _ ↦
    if x &&& 0x80000000 != 0 then (x <<< 1) ^^^ 0x04c11db7 else x <<< 1) (octet.toUInt32 <<< 24)

/-- The remainders of all octets. -/
def remainders : Array UInt32 := ((List.range 256).map remainderOf).toArray

/-- The check sum of octets and of their count. -/
def checkSum (octets : List UInt8) : UInt32 :=
  let step (x : UInt32) (o : UInt8) : UInt32 :=
    (x <<< 8) ^^^ remainders.getD ((x >>> 24).toUInt8 ^^^ o).toNat 0
  let count := (bigOctets 8 octets.length).dropWhile (· = 0)
  ~~~(count.reverse.foldl step (octets.foldl step 0))

/-- The program `cksum`. -/
def writeCheckSums : Utility :=
  let form : OptionForm := { name := "cksum" }
  fun arguments ↦ form.choose arguments fun c ↦ do
    let isWhole ← eachInput "cksum" fileFault c.others fun name t ↦
      putLine (shown (checkSum (ofOctets t)).toNat ++ ' ' :: shown t.length ++
        (if c.others.isEmpty then [] else ' ' :: name))
    return if isWhole then 0 else 1

end CommandScript.Shell
