import CommandScript.Shell.Number

/-!
# The calendar

A moment is a number of seconds from the start of the year 1970. It is written by a format in which
letters after a percent sign stand for parts of the date and of the time of day. There is one time
zone, the universal one.
-/
namespace CommandScript.Shell

/-- A **day** of the calendar. -/
structure Day where
  /-- The year. -/
  year : Int
  /-- The month, from one on. -/
  month : Nat
  /-- The day of the month, from one on. -/
  day : Nat
  deriving DecidableEq, Repr

namespace Day

/-- The number of days from the first of March of the year zero to a day, in years that start with
March. -/
def fromMarch (d : Day) : Int :=
  let year := if d.month ≤ 2 then d.year - 1 else d.year
  let month : Int := (d.month + 9) % 12
  365 * year + year / 4 - year / 100 + year / 400 + (153 * month + 2) / 5 + d.day - 1

/-- The number of days from the start of the year 1970 to a day. -/
def number (d : Day) : Int := d.fromMarch - 719468

/-- The day of a number. -/
def ofNumber (n : Int) : Day :=
  let n := n + 719468
  let era := n / 146097
  let inEra := n - era * 146097
  let yearInEra := (inEra - inEra / 1460 + inEra / 36524 - inEra / 146096) / 365
  let inYear := inEra - (365 * yearInEra + yearInEra / 4 - yearInEra / 100)
  let shifted := (5 * inYear + 2) / 153
  let day := inYear - (153 * shifted + 2) / 5 + 1
  let month := if shifted < 10 then shifted + 3 else shifted - 9
  ⟨yearInEra + era * 400 + (if month ≤ 2 then 1 else 0), month.toNat, day.toNat⟩

/-- The day of the week, where zero is the Sunday. -/
def weekday (d : Day) : Nat := ((d.number + 4) % 7).toNat

/-- How many days of the year come before a day. -/
def ofYear (d : Day) : Nat := (d.number - number ⟨d.year, 1, 1⟩).toNat

/-- How many days a month has. -/
def inMonth (year : Int) (month : Nat) : Nat :=
  let next : Day := if month = 12 then ⟨year + 1, 1, 1⟩ else ⟨year, month + 1, 1⟩
  (next.number - number ⟨year, month, 1⟩).toNat

/-- The year and the number of the week of a day, in the count where a week belongs to the year of
its Thursday. -/
def week (d : Day) : Int × Nat :=
  let monday := d.number - ((d.weekday + 6) % 7 : Nat)
  let thursday := ofNumber (monday + 3)
  (thursday.year, thursday.ofYear / 7 + 1)

end Day

/-- The names of the days of the week. -/
def weekdayNames : List String :=
  ["Sunday", "Monday", "Tuesday", "Wednesday", "Thursday", "Friday", "Saturday"]

/-- The names of the months. -/
def monthNames : List String :=
  ["January", "February", "March", "April", "May", "June", "July", "August", "September",
    "October", "November", "December"]

/-- A number with zeros in front up to a width. -/
def withZeros (width n : Nat) : Text :=
  let t := shown n
  List.replicate (width - t.length) '0' ++ t

/-- What a letter of a format stands for, where it has a meaning. Some letters have one only where
nanoseconds count. -/
def momentPart? (moment : Int) (nanoseconds : Option Nat) (c : Char) : Option Text :=
  let d := Day.ofNumber (moment / 86400)
  let seconds := (moment % 86400).toNat
  let hour := seconds / 3600
  let minute := seconds / 60 % 60
  let second := seconds % 60
  let twelve := if hour % 12 = 0 then 12 else hour % 12
  let year : Text := if d.year < 0 then Text.ofInt d.year else withZeros 4 d.year.toNat
  let blank (n : Nat) : Text := padStart 2 (shown n)
  let weekday := (weekdayNames.getD d.weekday "").toList
  let month := (monthNames.getD (d.month - 1) "").toList
  let time := withZeros 2 hour ++ ':' :: withZeros 2 minute ++ ':' :: withZeros 2 second
  let century := (d.year / 100).toNat
  let inCentury := (d.year % 100).toNat
  let american := withZeros 2 d.month ++ '/' :: withZeros 2 d.day ++ '/' :: withZeros 2 inCentury
  let half : Text := if hour < 12 then "AM".toList else "PM".toList
  match c with
  | '%' => some ['%']
  | 'n' => some ['\n']
  | 't' => some ['\t']
  | 'Y' => some year
  | 'C' => some (withZeros 2 century)
  | 'y' => some (withZeros 2 inCentury)
  | 'm' => some (withZeros 2 d.month)
  | 'd' => some (withZeros 2 d.day)
  | 'e' => some (blank d.day)
  | 'H' => some (withZeros 2 hour)
  | 'I' => some (withZeros 2 twelve)
  | 'k' => some (blank hour)
  | 'l' => some (blank twelve)
  | 'M' => some (withZeros 2 minute)
  | 'S' => some (withZeros 2 second)
  | 'N' => nanoseconds.map (withZeros 9)
  | 's' => some (Text.ofInt moment)
  | 'j' => some (withZeros 3 (d.ofYear + 1))
  | 'a' => some (weekday.take 3)
  | 'A' => some weekday
  | 'b' => some (month.take 3)
  | 'h' => some (month.take 3)
  | 'B' => some month
  | 'p' => some half
  | 'P' => some (half.map Char.toLower)
  | 'u' => some (shown (if d.weekday = 0 then 7 else d.weekday))
  | 'w' => some (shown d.weekday)
  | 'U' => some (withZeros 2 ((d.ofYear + 7 - d.weekday) / 7))
  | 'W' => some (withZeros 2 ((d.ofYear + 7 - (d.weekday + 6) % 7) / 7))
  | 'V' => some (withZeros 2 d.week.2)
  | 'G' => some (Text.ofInt d.week.1)
  | 'g' => some (withZeros 2 (d.week.1 % 100).toNat)
  | 'q' => nanoseconds.map fun _ ↦ shown ((d.month + 2) / 3)
  | 'F' => some (year ++ '-' :: withZeros 2 d.month ++ '-' :: withZeros 2 d.day)
  | 'D' => some american
  | 'x' => some american
  | 'T' => some time
  | 'X' => some time
  | 'R' => some (withZeros 2 hour ++ ':' :: withZeros 2 minute)
  | 'r' => some (withZeros 2 twelve ++ ':' :: withZeros 2 minute ++ ':' :: withZeros 2 second ++
      ' ' :: half)
  | 'c' => some (weekday.take 3 ++ ' ' :: month.take 3 ++ ' ' :: blank d.day ++ ' ' :: time ++
      ' ' :: year)
  | 'z' => some "+0000".toList
  | 'Z' => some "UTC".toList
  | _ => none

/-- A part of a moment with a flag that says how it is filled, and a width. -/
def flaggedPart (flag : Option Char) (width : Nat) (c : Char) (t : Text) : Text :=
  let isNumber := isDigits (t.dropWhile (· = ' '))
  let bare := t.dropWhile fun d ↦ d = ' ' ∨ d = '0'
  let bare := if bare.isEmpty then ['0'] else bare
  let usual : Char := if "ekl".toList.contains c then ' ' else '0'
  match flag with
  | some '-' => if isNumber then bare else t
  | some '_' => if isNumber then padStart (max width t.length) bare else padStart width t
  | some '0' =>
    if isNumber then List.replicate (max width t.length - bare.length) '0' ++ bare
    else List.replicate (width - t.length) '0' ++ t
  | some '^' => padStart width (t.map Char.toUpper)
  | some '#' =>
    padStart width (t.map fun d ↦ if d.isUpper ∧ (c = 'p' ∨ c = 'Z') then d.toLower else d.toUpper)
  | _ =>
    if isNumber then List.replicate (width - t.length) usual ++ t else padStart width t

/-- The difference to the universal time, by the number of colons in it. -/
def zoneDifference (colons : Nat) : Text :=
  (match colons with
    | 0 => "+0000"
    | 1 => "+00:00"
    | 2 => "+00:00:00"
    | _ => "+00").toList

/-- A moment written by a format. A letter without a meaning stays as it is. -/
def formatMoment (moment : Int) (nanoseconds : Option Nat) : Nat → Text → Text
  | 0, _ => []
  | _, [] => []
  | _, ['%'] => ['%']
  | n + 1, '%' :: rest =>
    let flagLetters := if nanoseconds.isSome then "-_0^#+" else "-_0^#"
    let flags := rest.takeWhile fun c ↦ flagLetters.toList.contains c
    let after := rest.drop flags.length
    let digits := after.takeWhile Char.isDigit
    let behind := after.drop digits.length
    let colons := if nanoseconds.isSome then behind.takeWhile (· = ':') else []
    let letters := (behind.drop colons.length).dropWhile fun c ↦ c = 'E' ∨ c = 'O'
    let width := Text.digitsValue digits
    let plain (_ : Unit) : Text := '%' :: formatMoment moment nanoseconds n rest
    match letters with
    | c :: rest' =>
      let goOn (t : Text) : Text := t ++ formatMoment moment nanoseconds n rest'
      if !colons.isEmpty then if c = 'z' then goOn (zoneDifference colons.length) else plain ()
      else match momentPart? moment nanoseconds c with
      | some t =>
        goOn (if c = 'N' then
            if digits.isEmpty then t else t.take width ++ List.replicate (width - t.length) '0'
          else flaggedPart flags.getLast? width c t)
      | none => plain ()
    | [] => plain ()
  | n + 1, c :: rest => c :: formatMoment moment nanoseconds n rest

/-- The moment at which everything happens. -/
def presentMoment : Int := 0

end CommandScript.Shell
