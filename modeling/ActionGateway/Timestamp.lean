import ActionGateway.Number.Literal
import ActionGateway.Text.Blank

/-! # Points in time

A point in time is a count of seconds since the start of 1970 and a count of nanoseconds. Its text
is a date and a time of day with the offset from UTC. The reader is lenient about blank
space and about the number of digits; the writer gives UTC with as many groups of three fraction
digits as are needed.
-/

namespace ActionGateway

/-- A point in time. From `10 ^ 9` on the nanoseconds stand for a leap second. -/
structure Timestamp where
  seconds : Int
  nanoseconds : Nat
  deriving DecidableEq, Repr, Inhabited

namespace Timestamp

/-! ## Calendar -/

/-- A year with 366 days. -/
def isLeapYear (year : Int) : Bool :=
  year % 4 == 0 && (year % 100 != 0 || year % 400 == 0)

/-- The number of days of a month. -/
def daysInMonth (year : Int) (month : Nat) : Nat :=
  if month = 2 then if isLeapYear year then 29 else 28
  else if month = 4 ∨ month = 6 ∨ month = 9 ∨ month = 11 then 30
  else 31

/-- Days from the first of March of year zero to the given date, where January and February count
to the year before. -/
def dayNumber (year : Int) (month day : Nat) : Int :=
  let shifted := if month ≤ 2 then year - 1 else year
  let monthFromMarch : Nat := if month ≤ 2 then month + 9 else month - 3
  let dayOfYear : Int := ((153 * monthFromMarch + 2) / 5 + (day - 1) : Nat)
  365 * shifted + shifted / 4 - shifted / 100 + shifted / 400 + dayOfYear

/-- The day number of the first of January 1970. -/
def epochDay : Int := dayNumber 1970 1 1

/-- The date with the given day number. -/
def dateOf (number : Int) : Int × Nat × Nat :=
  let era := number / 146097
  let dayOfEra := (number % 146097).toNat
  let yearOfEra := (dayOfEra - dayOfEra / 1460 + dayOfEra / 36524 - dayOfEra / 146096) / 365
  let dayOfYear := dayOfEra - (365 * yearOfEra + yearOfEra / 4 - yearOfEra / 100)
  let monthFromMarch := (5 * dayOfYear + 2) / 153
  let day := dayOfYear - (153 * monthFromMarch + 2) / 5 + 1
  let month := if monthFromMarch < 10 then monthFromMarch + 3 else monthFromMarch - 9
  let year : Int := yearOfEra + era * 400
  (if month ≤ 2 then year + 1 else year, month, day)

/-! ## Reading -/

/-- A number of one to `width` digits after blank space. -/
def readNumber (width : Nat) (text : List Char) : Option (Nat × List Char) :=
  let text := Text.trimStart text
  let digits := (text.take width).takeWhile Literal.isDigit
  if digits.isEmpty then none
  else some (Literal.digitsValue digits, text.drop digits.length)

/-- All digits at the start of the text, at least one. -/
def readDigits (text : List Char) : Option (Nat × List Char) :=
  let digits := text.takeWhile Literal.isDigit
  if digits.isEmpty then none
  else some (Literal.digitsValue digits, text.drop digits.length)

/-- A year: four digits at most, or any number of digits after a sign. -/
def readYear (text : List Char) : Option (Int × List Char) :=
  match Text.trimStart text with
  | '-' :: rest => (readDigits rest).map fun read => (-(read.1 : Int), read.2)
  | '+' :: rest => (readDigits rest).map fun read => ((read.1 : Int), read.2)
  | rest => (readNumber 4 rest).map fun read => ((read.1 : Int), read.2)

/-- The given character after blank space. -/
def readMark (mark : Char) (text : List Char) : Option (List Char) :=
  match Text.trimStart text with
  | c :: rest => if c = mark then some rest else none
  | [] => none

/-- The fraction of a second, if there is a point. Digits beyond the ninth are dropped. -/
def readFraction : List Char → Option (Nat × List Char)
  | '.' :: rest =>
    let digits := rest.takeWhile Literal.isDigit
    if digits.isEmpty then none
    else
      let kept := digits.take 9
      some (Literal.digitsValue kept * Nat.pow 10 (9 - kept.length), rest.drop digits.length)
  | rest => some (0, rest)

/-- Two digits. -/
def readPair : List Char → Option (Nat × List Char)
  | a :: b :: rest =>
    if Literal.isDigit a && Literal.isDigit b then some (Literal.digitsValue [a, b], rest)
    else none
  | _ => none

/-- Hours and minutes of an offset, with colons or blank space between, in seconds. -/
def readHoursMinutes (text : List Char) : Option (Int × List Char) := do
  let (hours, text) ← readPair text
  let text := text.dropWhile fun c => c == ':' || Text.isBlank c
  let (minutes, text) ← readPair text
  let seconds := hours * 3600 + minutes * 60
  if minutes < 60 ∧ seconds < 86400 then some ((seconds : Int), text) else none

/-- An offset as `Z` or as a sign with hours and minutes. -/
def readSignedOffset : List Char → Option (Int × List Char)
  | 'Z' :: rest | 'z' :: rest => some (0, rest)
  | '+' :: rest => readHoursMinutes rest
  | '-' :: rest | '−' :: rest => (readHoursMinutes rest).map fun read => (-read.1, read.2)
  | _ => none

/-- The offset from UTC in seconds: the word UTC, `Z`, or a sign with hours and minutes. -/
def readOffset : List Char → Option (Int × List Char)
  | u :: t :: c :: rest =>
    if [u, t, c].map Char.toUpper = ['U', 'T', 'C'] then some (0, rest)
    else readSignedOffset (u :: t :: c :: rest)
  | text => readSignedOffset text

/-- The first year. -/
def firstYear : Int := -262143

/-- The last year. -/
def lastYear : Int := 262142

/-- A point in time that lies within the years, in UTC. -/
def isWithinYears (timestamp : Timestamp) : Bool :=
  decide ((dayNumber firstYear 1 1 - epochDay) * 86400 ≤ timestamp.seconds) &&
    decide (timestamp.seconds < (dayNumber (lastYear + 1) 1 1 - epochDay) * 86400)

/-- The point in time that a text gives. It lies within the years where the text was written and
in UTC. -/
def ofText? (content : String) : Option Timestamp := do
  let (year, text) ← readYear content.toList
  let text ← readMark '-' text
  let (month, text) ← readNumber 2 text
  let text ← readMark '-' text
  let (day, text) ← readNumber 2 text
  let text ← match text with
    | 'T' :: rest | 't' :: rest | ' ' :: rest => some rest
    | _ => none
  let (hour, text) ← readNumber 2 text
  let text ← readMark ':' text
  let (minute, text) ← readNumber 2 text
  let text ← readMark ':' text
  let (second, text) ← readNumber 2 text
  let (fraction, text) ← readFraction text
  let (offset, text) ← readOffset (Text.trimStart text)
  if (Text.trimStart text).isEmpty ∧ 1 ≤ month ∧ month ≤ 12 ∧ 1 ≤ day ∧
      day ≤ daysInMonth year month ∧ hour < 24 ∧ minute < 60 ∧ second ≤ 60 ∧
      firstYear ≤ year ∧ year ≤ lastYear then
    let leap := second = 60
    let time := hour * 3600 + minute * 60 + (if leap then 59 else second)
    let timestamp : Timestamp := {
      seconds := (dayNumber year month day - epochDay) * 86400 + time - offset
      nanoseconds := fraction + (if leap then 1000000000 else 0) }
    if timestamp.isWithinYears then some timestamp else none
  else none

/-! ## Writing -/

/-- A number with zeros in front, up to the given width. -/
def padded (width value : Nat) : List Char :=
  let digits := Nat.toDigits 10 value
  List.replicate (width - digits.length) '0' ++ digits

/-- A year: four digits, with a sign outside the years that four digits can hold. -/
def yearText (year : Int) : List Char :=
  if 0 ≤ year ∧ year ≤ 9999 then padded 4 year.toNat
  else (if year < 0 then '-' else '+') :: padded 4 year.natAbs

/-- A fraction of a second in groups of three digits, nothing for none. -/
def fractionText (nanoseconds : Nat) : List Char :=
  if nanoseconds = 0 then []
  else if nanoseconds % 1000000 = 0 then '.' :: padded 3 (nanoseconds / 1000000)
  else if nanoseconds % 1000 = 0 then '.' :: padded 6 (nanoseconds / 1000)
  else '.' :: padded 9 nanoseconds

/-- The text of a point in time, in UTC. -/
def text (timestamp : Timestamp) : String :=
  let day := timestamp.seconds / 86400
  let time := (timestamp.seconds % 86400).toNat
  let leap := decide (1000000000 ≤ timestamp.nanoseconds)
  let second := time % 60 + (if leap then 1 else 0)
  let fraction := timestamp.nanoseconds % 1000000000
  let (year, month, dayOfMonth) := dateOf (day + epochDay)
  String.ofList (
    yearText year ++ '-' :: padded 2 month ++ '-' :: padded 2 dayOfMonth ++
    'T' :: padded 2 (time / 3600) ++ ':' :: padded 2 (time / 60 % 60) ++ ':' :: padded 2 second ++
    fractionText fraction ++ ['Z'])

end Timestamp

end ActionGateway
