import CommandScript.Shell.Calendar
import CommandScript.Shell.Program.Basic

/-!
# The program for dates

A moment is described by words: dates and times of day in several notations, days of the week,
zones, and differences to them. The description is read item by item, each from the words that come
next; every kind of item but the differences may be there once. What is described is then written by
a format.
-/
namespace CommandScript.Shell

/-! ### Words -/

/-- What a difference is counted in. -/
inductive ClockUnit where
  /-- Years. -/
  | years
  /-- Months. -/
  | months
  /-- Days. -/
  | days
  /-- Seconds. -/
  | seconds
  deriving DecidableEq, Repr

/-- A **word** of a description. -/
inductive ClockWord where
  /-- A number, with how many digits it has. -/
  | plain (value digits : Nat)
  /-- A number with a sign, with how many digits it has. -/
  | signed (value : Int) (digits : Nat)
  /-- A number with a fraction, in seconds and nanoseconds. -/
  | fraction (seconds nanoseconds : Nat)
  /-- A month. -/
  | month (n : Nat)
  /-- A day of the week. -/
  | weekday (n : Nat)
  /-- A half of the day, and whether it is the second one. -/
  | half (second : Bool)
  /-- A zone, with how many minutes it is ahead. -/
  | zone (minutes : Int)
  /-- The letter between a date and a time. -/
  | between
  /-- A unit, with how many of what it is counted in make it up. -/
  | unit (u : ClockUnit) (count : Nat)
  /-- A number in words. -/
  | ordinal (n : Int)
  /-- A day, given by how far away it is. -/
  | shift (days : Int)
  /-- What comes before counts backwards, or forwards as it is. -/
  | turn (sign : Int)
  /-- Another sign. -/
  | mark (c : Char)
  deriving DecidableEq, Repr

namespace ClockWord

/-- The words for units. -/
def units : List (String × ClockWord) := [
  ("YEAR", .unit .years 1), ("MONTH", .unit .months 1), ("FORTNIGHT", .unit .days 14),
  ("WEEK", .unit .days 7), ("DAY", .unit .days 1), ("HOUR", .unit .seconds 3600),
  ("MINUTE", .unit .seconds 60), ("MIN", .unit .seconds 60), ("SECOND", .unit .seconds 1),
  ("SEC", .unit .seconds 1)]

/-- The words for halves of the day, zones and differences. -/
def others : List (String × ClockWord) := [
  ("AM", .half false), ("A.M.", .half false), ("PM", .half true), ("P.M.", .half true),
  ("TUES", .weekday 2), ("WEDNES", .weekday 3), ("THUR", .weekday 4), ("THURS", .weekday 4),
  ("SEPT", .month 9),
  ("GMT", .zone 0), ("UT", .zone 0), ("UTC", .zone 0), ("WET", .zone 0), ("WEST", .zone 60),
  ("BST", .zone 60), ("ART", .zone (-180)), ("BRT", .zone (-180)), ("NST", .zone (-210)),
  ("AST", .zone (-240)), ("ADT", .zone (-180)), ("EST", .zone (-300)), ("EDT", .zone (-240)),
  ("CST", .zone (-360)), ("CDT", .zone (-300)), ("MST", .zone (-420)), ("MDT", .zone (-360)),
  ("PST", .zone (-480)), ("PDT", .zone (-420)), ("AKST", .zone (-540)), ("HST", .zone (-600)),
  ("CET", .zone 60), ("CEST", .zone 120), ("MET", .zone 60), ("MEST", .zone 120),
  ("EET", .zone 120), ("EEST", .zone 180), ("MSK", .zone 180), ("IST", .zone 330),
  ("SGT", .zone 480), ("JST", .zone 540), ("NZST", .zone 720), ("T", .between),
  ("TOMORROW", .shift 1), ("YESTERDAY", .shift (-1)), ("TODAY", .shift 0), ("NOW", .shift 0),
  ("LAST", .ordinal (-1)), ("THIS", .ordinal 0), ("NEXT", .ordinal 1), ("FIRST", .ordinal 1),
  ("THIRD", .ordinal 3), ("FOURTH", .ordinal 4), ("FIFTH", .ordinal 5), ("SIXTH", .ordinal 6),
  ("SEVENTH", .ordinal 7), ("EIGHTH", .ordinal 8), ("NINTH", .ordinal 9), ("TENTH", .ordinal 10),
  ("ELEVENTH", .ordinal 11), ("TWELFTH", .ordinal 12), ("AGO", .turn (-1)), ("HENCE", .turn 1)]

/-- The zone that a single letter stands for. -/
def letterZone? (c : Char) : Option ClockWord :=
  let k : Int := c.toNat - 'A'.toNat
  if 'A' ≤ c ∧ c ≤ 'I' then some (.zone (60 * (k + 1)))
  else if 'K' ≤ c ∧ c ≤ 'M' then some (.zone (60 * k))
  else if 'N' ≤ c ∧ c ≤ 'S' then some (.zone (60 * (12 - k)))
  else if 'U' ≤ c ∧ c ≤ 'Y' then some (.zone (60 * (12 - k)))
  else if c = 'Z' then some (.zone 0)
  else none

/-- What letters stand for. -/
def ofLetters? (t : Text) : Option ClockWord :=
  let upper := t.map Char.toUpper
  let bare := upper.filter (· != '.')
  let name := String.ofList upper
  let isName (whole : String) : Bool :=
    let whole := whole.toList.map Char.toUpper
    bare = whole || bare = whole.take 3
  let singular := if upper.getLast? = some 'S' then String.ofList upper.dropLast else name
  match others.lookup name with
  | some w => some w
  | none =>
    match monthNames.findIdx? isName, weekdayNames.findIdx? isName with
    | some n, _ => some (.month (n + 1))
    | none, some n => some (.weekday n)
    | none, none =>
      match (units.lookup name).orElse fun _ ↦ units.lookup singular with
      | some w => some w
      | none => match upper with
        | [c] => letterZone? c
        | _ => others.lookup (String.ofList bare)

/-- What digits after a point stand for in nanoseconds. -/
def nanosecondsOf (digits : Text) : Nat :=
  Text.digitsValue ((digits ++ List.replicate 9 '0').take 9)

/-- The words of a description, or nothing where one is not known. -/
def read : Nat → Text → Option (List ClockWord)
  | 0, _ => none
  | _, [] => some []
  | n + 1, c :: rest =>
    let number (sign : Option Int) (t : Text) : Option (List ClockWord) :=
      let digits := t.takeWhile Char.isDigit
      let after := t.drop digits.length
      let value := Text.digitsValue digits
      match sign, after with
      | some sign, after => (read n after).map (.signed (sign * value) digits.length :: ·)
      | none, p :: d :: rest =>
        if (p = '.' ∨ p = ',') ∧ d.isDigit then
          let part := (d :: rest).takeWhile Char.isDigit
          (read n ((d :: rest).drop part.length)).map (.fraction value (nanosecondsOf part) :: ·)
        else (read n after).map (.plain value digits.length :: ·)
      | none, after => (read n after).map (.plain value digits.length :: ·)
    if isSpace c then read n rest
    else if c.isDigit then number none (c :: rest)
    else if c = '+' ∨ c = '-' then
      let after := rest.dropWhile isSpace
      if after.head?.any Char.isDigit then number (some (if c = '-' then -1 else 1)) after
      else read n after
    else if c.isAlpha then
      let letters := (c :: rest).takeWhile fun d ↦ d.isAlpha || d = '.'
      (ofLetters? letters).bind fun w ↦
        (read n ((c :: rest).drop letters.length)).map (w :: ·)
    else if c = '(' then
      match (rest.dropWhile (· != ')')) with
      | _ :: after => read n after
      | [] => none
    else (read n rest).map (.mark c :: ·)

end ClockWord

/-! ### Items -/

/-- What a description says so far. -/
structure ClockReading where
  /-- The year, with how many digits it has, if it is said. -/
  year : Option (Int × Nat) := none
  /-- The month. -/
  month : Int := 1
  /-- The day of the month. -/
  day : Int := 1
  /-- The hour. -/
  hour : Nat := 0
  /-- The minute. -/
  minute : Nat := 0
  /-- The second. -/
  second : Nat := 0
  /-- The nanoseconds. -/
  nanoseconds : Nat := 0
  /-- The half of the day, if the hour is one of it. -/
  half : Option Bool := none
  /-- The day of the week, with how many of them away it is. -/
  weekday : Option (Int × Nat) := none
  /-- How many minutes the zone is ahead. -/
  zone : Int := 0
  /-- How many dates there are. -/
  dates : Nat := 0
  /-- How many times of day there are. -/
  times : Nat := 0
  /-- How many days of the week there are. -/
  weekdays : Nat := 0
  /-- How many zones there are. -/
  zones : Nat := 0
  /-- Whether there is a difference. -/
  differs : Bool := false
  /-- The difference in years, months, days and seconds. -/
  years : Int := 0
  /-- The difference in months. -/
  months : Int := 0
  /-- The difference in days. -/
  days : Int := 0
  /-- The difference in seconds. -/
  seconds : Int := 0

namespace ClockReading

/-- Adds a difference. -/
def shift (r : ClockReading) (u : ClockUnit) (n : Int) : ClockReading :=
  let r := { r with differs := true }
  match u with
  | .years => { r with years := r.years + n }
  | .months => { r with months := r.months + n }
  | .days => { r with days := r.days + n }
  | .seconds => { r with seconds := r.seconds + n }

/-- Adds a difference that may be turned by the word behind it. -/
def shiftTurned (r : ClockReading) (u : ClockUnit) (n : Int) :
    List ClockWord → ClockReading × List ClockWord
  | .turn sign :: rest => (r.shift u (sign * n), rest)
  | rest => (r.shift u n, rest)

/-- A number by itself, which is a year, a date or a time of day. -/
def number (r : ClockReading) (value digits : Nat) : ClockReading :=
  if 0 < r.dates ∧ (r.year.all fun y ↦ y.2 = 0) ∧ !r.differs ∧ (0 < r.times ∨ 2 < digits) then
    { r with year := some (value, digits) }
  else if 4 < digits then
    { r with
      dates := r.dates + 1, day := (value % 100 : Nat), month := (value / 100 % 100 : Nat)
      year := some (value / 10000, digits - 4) }
  else
    let (hour, minute) := if digits ≤ 2 then (value, 0) else (value / 100, value % 100)
    { r with times := r.times + 1, hour, minute, second := 0, nanoseconds := 0, half := none }

/-- Adds a date. -/
def date (r : ClockReading) (year : Option (Int × Nat)) (month day : Int) : ClockReading :=
  { r with dates := r.dates + 1, year := year.orElse (fun _ ↦ r.year), month, day }

/-- How many minutes a number with a sign is ahead as a zone, with minutes behind a colon. -/
def zoneMinutes (value : Int) (digits : Nat) (minutes : Option Nat) : Int :=
  match minutes with
  | some m => if value < 0 then value * 60 - m else value * 60 + m
  | none => if digits ≤ 2 then value * 60 else value.tdiv 100 * 60 + value.tmod 100

/-- The zone behind a time of day, if there is one. -/
def zoneAfter (r : ClockReading) : List ClockWord → ClockReading × List ClockWord
  | .signed value digits :: .mark ':' :: .plain minutes _ :: rest =>
    ({ r with zones := r.zones + 1, zone := zoneMinutes value digits (some minutes) }, rest)
  | .signed value digits :: rest =>
    ({ r with zones := r.zones + 1, zone := zoneMinutes value digits none }, rest)
  | rest => (r, rest)

/-- Adds a time of day, with the half of the day or the zone behind it. -/
def time (r : ClockReading) (hour minute second nanoseconds : Nat) (rest : List ClockWord) :
    ClockReading × List ClockWord :=
  let r := { r with times := r.times + 1, hour, minute, second, nanoseconds, half := none }
  match rest with
  | .half second :: rest => ({ r with half := some second }, rest)
  | rest => r.zoneAfter rest

/-- Reads a time of day with colons. -/
def clockTime (r : ClockReading) : List ClockWord → Option (ClockReading × List ClockWord)
  | .plain h _ :: .mark ':' :: .plain m _ :: .mark ':' :: .plain s _ :: rest =>
    some (r.time h m s 0 rest)
  | .plain h _ :: .mark ':' :: .plain m _ :: .mark ':' :: .fraction s f :: rest =>
    some (r.time h m s f rest)
  | .plain h _ :: .mark ':' :: .plain m _ :: rest => some (r.time h m 0 0 rest)
  | _ => none

/-- Reads the item that comes first. -/
def item (r : ClockReading) : List ClockWord → Option (ClockReading × List ClockWord)
  | .plain y k :: .signed m _ :: .signed d _ :: .between :: rest@(.plain _ _ :: .mark ':' :: _) =>
    (r.date (some (y, k)) (-m) (-d)).clockTime rest
  | .plain y k :: .signed m _ :: .signed d _ :: rest =>
    let r := r.date (some (y, k)) (-m) (-d)
    match rest with
    | .between :: .plain h _ :: rest@(.signed _ _ :: _) => some (r.time h 0 0 0 rest)
    | .between :: .plain _ _ :: _ => none
    | rest => some (r, rest)
  | .plain value digits :: .signed n _ :: .unit u count :: rest =>
    some ((r.number value digits).shiftTurned u (n * count) rest)
  | .plain h _ :: .half second :: rest =>
    some ({ r with
      times := r.times + 1, hour := h, minute := 0, second := 0, nanoseconds := 0
      half := some second }, rest)
  | words@(.plain _ _ :: .mark ':' :: _) => r.clockTime words
  | .plain a k :: .mark '/' :: .plain b _ :: .mark '/' :: .plain c j :: rest =>
    some (if 4 ≤ k then r.date (some (a, k)) b c else r.date (some (c, j)) a b, rest)
  | .plain a _ :: .mark '/' :: .plain b _ :: rest => some (r.date none a b, rest)
  | .plain d _ :: .month m :: .signed y k :: rest => some (r.date (some (-y, k)) m d, rest)
  | .plain d _ :: .month m :: .plain y k :: rest =>
    match rest with
    | .mark ':' :: _ => some (r.date none m d, .plain y k :: rest)
    | rest => some (r.date (some (y, k)) m d, rest)
  | .plain d _ :: .month m :: rest => some (r.date none m d, rest)
  | .month m :: .signed d _ :: .signed y k :: rest => some (r.date (some (-y, k)) m (-d), rest)
  | .month m :: .plain d _ :: .mark ',' :: .plain y k :: rest =>
    some (r.date (some (y, k)) m d, rest)
  | .month m :: .plain d _ :: rest => some (r.date none m d, rest)
  | .plain n _ :: .unit u count :: rest => some (r.shiftTurned u (n * count) rest)
  | .signed n _ :: .unit u count :: rest => some (r.shiftTurned u (n * count) rest)
  | .ordinal n :: .unit u count :: rest => some (r.shiftTurned u (n * count) rest)
  | .unit u count :: rest => some (r.shiftTurned u count rest)
  | .ordinal n :: .weekday d :: rest =>
    some ({ r with weekdays := r.weekdays + 1, weekday := some (n, d) }, rest)
  | .plain n _ :: .weekday d :: rest =>
    some ({ r with weekdays := r.weekdays + 1, weekday := some (n, d) }, rest)
  | .weekday d :: rest =>
    let rest := if rest.head? = some (.mark ',') then rest.drop 1 else rest
    some ({ r with weekdays := r.weekdays + 1, weekday := some (0, d) }, rest)
  | .shift n :: rest => some (r.shift .days n, rest)
  | .between :: rest => some ({ r with zones := r.zones + 1, zone := -420 }, rest)
  | .zone minutes :: .signed n _ :: .unit u count :: rest =>
    some (({ r with zones := r.zones + 1, zone := minutes }).shiftTurned u (n * count) rest)
  | .zone minutes :: rest =>
    let (after, left) := r.zoneAfter rest
    if after.zones = r.zones then some ({ r with zones := r.zones + 1, zone := minutes }, rest)
    else some ({ after with zone := minutes + after.zone }, left)
  | .plain value digits :: rest => some (r.number value digits, rest)
  | _ => none

/-- Reads all items. -/
def items : Nat → ClockReading → List ClockWord → Option ClockReading
  | 0, _, _ => none
  | _, r, [] => some r
  | n + 1, r, words => (r.item words).bind fun (r, rest) ↦ items n r rest

/-- The hour of the day. -/
def wholeHour? (r : ClockReading) : Option Nat :=
  match r.half with
  | none => if r.hour < 24 then some r.hour else none
  | some second =>
    if r.hour = 0 ∨ 12 < r.hour then none
    else some (r.hour % 12 + if second then 12 else 0)

/-- The moment that is described, in seconds and nanoseconds, if there is one. -/
def moment? (r : ClockReading) : Option (Int × Nat) :=
  let present := Day.ofNumber (presentMoment / 86400)
  let year : Int := match r.year with
    | none => present.year
    | some (y, digits) => if digits = 2 then (if y < 69 then y + 2000 else y + 1900) else y
  let month : Int := if 0 < r.dates then r.month else present.month
  let day : Int := if 0 < r.dates then r.day else present.day
  if 1 < r.dates ∨ 1 < r.times ∨ 1 < r.weekdays ∨ 1 < r.zones then none
  else if month < 1 ∨ 12 < month ∨ day < 1 ∨ (Day.inMonth year month.toNat : Int) < day then none
  else if 59 < r.minute ∨ 59 < r.second then none
  else r.wholeHour?.bind fun hour ↦
    let base : Day := ⟨year, month.toNat, day.toNat⟩
    let towards : Int := match r.weekday with
      | some (ordinal, d) =>
        if 0 < r.dates then 0
        else ((d : Int) - base.weekday + 7) % 7 +
          7 * (ordinal - if 0 < ordinal ∧ base.weekday ≠ d then 1 else 0)
      | none => 0
    let months := (year + r.years) * 12 + (month - 1 + r.months)
    let first : Day := ⟨months / 12, (months % 12).toNat + 1, 1⟩
    let days := first.number + (day - 1) + r.days + towards
    let seconds := days * 86400 + (hour * 3600 + r.minute * 60 + r.second : Nat)
    some (seconds - r.zone * 60 + r.seconds, r.nanoseconds)

end ClockReading

/-- The moment that a number after an at sign gives. -/
def countedMoment? (t : Text) : Option (Int × Nat) :=
  let (sign, digits) := splitSign (t.dropWhile isSpace)
  let whole := digits.takeWhile Char.isDigit
  let value : Int := sign * Text.digitsValue whole
  match whole, (digits.drop whole.length).reverse.dropWhile isSpace |>.reverse with
  | [], _ => none
  | _, [] => some (value, 0)
  | _, point :: part =>
    if (point = '.' ∨ point = ',') ∧ isDigits part then
      let nanoseconds := ClockWord.nanosecondsOf part
      if sign < 0 ∧ nanoseconds ≠ 0 then some (value - 1, Nat.pow 10 9 - nanoseconds)
      else some (value, nanoseconds)
    else none

/-- The moment that a text describes. -/
def describedMoment? (t : Text) : Option (Int × Nat) :=
  match t.dropWhile isSpace with
  | '@' :: rest => countedMoment? rest
  | t =>
    (ClockWord.read (t.length + 1) t).bind fun words ↦
      (ClockReading.items (words.length + 1) {} words).bind ClockReading.moment?

/-! ### The program -/

/-- The formats of dates with their precisions by name. -/
def standardMoments : List (String × String) := [
  ("hours", "%Y-%m-%dT%H%:z"), ("minutes", "%Y-%m-%dT%H:%M%:z"), ("date", "%Y-%m-%d"),
  ("seconds", "%Y-%m-%dT%H:%M:%S%:z"), ("ns", "%Y-%m-%dT%H:%M:%S,%N%:z")]

/-- The formats of dates with spaces by name. -/
def spacedMoments : List (String × String) := [
  ("date", "%Y-%m-%d"), ("seconds", "%Y-%m-%d %H:%M:%S%:z"), ("ns", "%Y-%m-%d %H:%M:%S.%N%:z")]

/-- The options of `date`. -/
def clockForm : OptionForm := {
  name := "date", plain := "uR", valued := "dfrs\x01", optional := "I"
  long := [("date", 'd'), ("file", 'f'), ("iso-8601", 'I'), ("reference", 'r'),
    ("rfc-email", 'R'), ("rfc-822", 'R'), ("rfc-2822", 'R'), ("rfc-3339", '\x01'), ("set", 's'),
    ("utc", 'u'), ("universal", 'u'), ("uct", 'u')] }

/-- The format of a precision, whose name may be cut short, or the names that there are. -/
def momentFormat (formats : List (String × String)) (option : String) (name : Text) :
    Except Text String :=
  match formats.filter fun e ↦ name.isPrefixOf e.1.toList with
  | [e] => .ok e.2
  | _ => .error ("invalid argument ".toList ++ curled name ++ " for ".toList ++
      curled ("--".toList ++ option.toList) ++ "\nValid arguments are:".toList ++
      formats.flatMap fun e ↦ "\n  - ".toList ++ curled e.1.toList)

/-- The format that the options of `date` choose, if they choose one. -/
def chosenFormats (c : Choices) : Except Text (List String) :=
  (c.given.filter fun e ↦ e.1 = 'R' ∨ e.1 = 'I' ∨ e.1 = '\x01').mapM fun (letter, value) ↦
    if letter = 'R' then .ok "%a, %d %b %Y %H:%M:%S %z"
    else if letter = 'I' then match value with
      | none => .ok "%Y-%m-%d"
      | some name => momentFormat standardMoments "iso-8601" name
    else momentFormat spacedMoments "rfc-3339" (value.getD [])

/-- The program `date`. -/
def writeMoment : Utility := fun arguments ↦ clockForm.choose arguments fun c ↦ do
  let sources := c.given.filter fun e ↦ e.1 = 'd' ∨ e.1 = 'f' ∨ e.1 = 'r'
  let invalid (t : Text) : Act Unit := tellOf "date" ("invalid date ".toList ++ curled
    (t.flatMap fun c ↦ if isHidden c then hiddenEscape c else [c]))
  match chosenFormats c with
  | .error message => clockForm.misuse message
  | .ok formats =>
    if 1 < ((sources.map Prod.fst).eraseDups).length then
      return ← clockForm.misuse
        "the options to specify dates for printing are mutually exclusive".toList
    let own := c.others.head?.bind (Text.dropStart? ['+'])
    match c.others with
    | _ :: t :: _ => return ← clockForm.misuse ("extra operand ".toList ++ curled t)
    | [t] =>
      if own.isNone then
        if sources.isEmpty then
          invalid t
          return 1
        else return ← clockForm.misuse ("the argument ".toList ++ curled t ++
          (" lacks a leading '+';\nwhen using an option to specify date(s), any non-option\n" ++
            "argument must be a format string beginning with '+'").toList)
    | [] => pure ()
    if 1 < formats.length + own.toList.length then
      return ← failOf "date" 1 "multiple output formats specified".toList
    let format := own.getD ((formats.head?.getD "%a %b %e %H:%M:%S %Z %Y").toList)
    let write (t : Text) : Act Nat := do
      match describedMoment? t with
      | some (moment, nanoseconds) =>
        putLine (formatMoment moment (some nanoseconds) (format.length + 1) format)
        return 0
      | none =>
        invalid t
        return 1
    match sources.getLast? with
    | some ('d', some t) => write t
    | some ('f', some name) =>
      match ← readInput name with
      | .error f => failOf "date" 1 (fileFault name f)
      | .ok t =>
        let mut status := 0
        for line in linesOf t do
          if (← write line) ≠ 0 then status := 1
        return status
    | some (_, some name) =>
      match (← get).files.findNumber (pathOf name) with
      | .error f => failOf "date" 1 (fileFault name f)
      | .ok _ => write "@0".toList
    | _ => write ('@' :: Text.ofInt presentMoment)

end CommandScript.Shell
