/-!
# Dates and times in text

A point in time is a date, possibly followed by any one character and a time of day, possibly with
an offset. Dates are written with hyphens or without: year, month and day, or year, week after a
`W`, and perhaps day of the week. Times have hours and, as far as given, minutes, seconds and a
fraction. Only ASCII digits count, and lengths are those of the UTF-8 bytes. Text that has this form
is then checked field by field against the ranges of the calendar and the clock.

Where the date ends is decided by looking ahead (`dateLength?`), since any character may separate it
from the time. What stands before an offset only has to begin with a time of day; without an offset,
or within one, the time of day has to go up to the end or to a byte NUL.
-/

namespace CodeGauge.Text

/-- Why a text is no point in time: it has not the form, or a field is out of its range. -/
inductive TimestampFault where
  | malformed
  | outOfRange (reason : String)
  deriving DecidableEq, Repr

/-- The byte of an ASCII character. -/
def byteOf (c : Char) : UInt8 := c.toNat.toUInt8

/-- Whether a byte is an ASCII digit. -/
def isDigitByte (b : UInt8) : Bool := byteOf '0' ≤ b && b ≤ byteOf '9'

/-- The number that the first `n` bytes spell, all of which must be digits, and the rest. -/
def fixedDigits? (n : Nat) (bytes : List UInt8) : Option (Nat × List UInt8) :=
  let digits := bytes.take n
  if digits.length = n ∧ digits.all isDigitByte then
    some (digits.foldl (fun v b => 10 * v + (b - byteOf '0').toNat) 0, bytes.drop n)
  else none

/-! ## The calendar -/

/-- The last year that a date can have. -/
def lastYear : Nat := 9999

/-- Every fourth year is a leap year, but of the hundreds only every fourth. -/
def isLeapYear (year : Nat) : Bool :=
  year % 4 == 0 && (year % 100 != 0 || year % 400 == 0)

/-- The days of a year. -/
def daysInYear (year : Nat) : Nat :=
  if isLeapYear year then 366 else 365

/-- The days of a month. -/
def daysInMonth (year month : Nat) : Nat :=
  if month == 2 then (if isLeapYear year then 29 else 28)
  else if month == 4 || month == 6 || month == 9 || month == 11 then 30
  else 31

/-- The weekday of the first of January, Monday being zero. -/
def firstWeekday (year : Nat) : Nat :=
  let y := year - 1
  (y + y / 4 - y / 100 + y / 400) % 7

/-- A year has a fifty-third week when it begins on a Thursday, or on a Wednesday and is a
leap year. -/
def weeksInYear (year : Nat) : Nat :=
  let first := firstWeekday year
  if first == 3 || (first == 2 && isLeapYear year) then 53 else 52

/-- The days from the first of January to a day of a week. The first week is the one with the first
Thursday, so its Monday may lie before the first of January. -/
def daysFromNewYear (year week day : Nat) : Int :=
  let first : Int := firstWeekday year
  let monday := if first ≤ 3 then -first else 7 - first
  monday + 7 * ((week : Int) - 1) + (day - 1)

/-- A date as it is written. -/
inductive WrittenDate where
  | day (year month day : Nat)
  | week (year week day : Nat)
  deriving DecidableEq, Repr

/-- How many bytes the date takes. Without hyphens a week date has a day when an odd number of
digits follows the week, or at least one does; with hyphens it has one unless two digits follow the
second hyphen, which then separates the time. -/
def dateLength? (bytes : List UInt8) : Option Nat :=
  let hyphen := some (byteOf '-')
  let week := some (byteOf 'W')
  if bytes.length = 7 then some 7
  else if bytes[4]? = hyphen then
    if bytes[5]? ≠ week then some 10
    else if bytes[8]? ≠ hyphen then some 8
    else if bytes.length = 9 then none
    else if (bytes[10]?).any isDigitByte then some 8
    else some 10
  else if bytes[4]? = week then
    let digits := ((bytes.drop 7).takeWhile isDigitByte).length
    if digits < 2 then some (7 + digits)
    else if digits % 2 = 1 then some 7
    else some 8
  else some 8

/-- A hyphen, if hyphens are used. -/
def hyphen? (hyphens : Bool) (bytes : List UInt8) : Option (List UInt8) :=
  match hyphens, bytes with
  | false, bytes => some bytes
  | true, b :: rest => if b = byteOf '-' then some rest else none
  | true, [] => none

/-- The date that bytes spell; a week stands for its first day. -/
def writtenDate? (bytes : List UInt8) : Option WrittenDate := do
  let (year, bytes) ← fixedDigits? 4 bytes
  let hyphens := bytes.head? == some (byteOf '-')
  let bytes ← hyphen? hyphens bytes
  if bytes.head? = some (byteOf 'W') then
    let (week, bytes) ← fixedDigits? 2 (bytes.drop 1)
    if bytes.isEmpty then return .week year week 1
    let (day, _) ← fixedDigits? 1 (← hyphen? hyphens bytes)
    return .week year week day
  else
    let (month, bytes) ← fixedDigits? 2 bytes
    let (day, bytes) ← fixedDigits? 2 (← hyphen? hyphens bytes)
    if bytes.isEmpty then return .day year month day else none

/-- Whether the week and the day of a week date are ones. -/
def WrittenDate.isWeekDay : WrittenDate → Bool
  | .day .. => true
  | .week year w d => 1 ≤ w && w ≤ weeksInYear year && 1 ≤ d && d ≤ 7

/-- Check that a date is one of the years from the first to the last. The year before the first has
no months. -/
def WrittenDate.check : WrittenDate → Except TimestampFault Unit
  | .week year w d =>
    if year < 1 then .error (.outOfRange "month must be in 1..12")
    else if lastYear ≤ year ∧ daysInYear year ≤ daysFromNewYear year w d then
      .error (.outOfRange s!"year {year + 1} is out of range")
    else .ok ()
  | .day year month d =>
    if year < 1 then .error (.outOfRange s!"year {year} is out of range")
    else if month < 1 ∨ 12 < month then .error (.outOfRange "month must be in 1..12")
    else if d < 1 ∨ daysInMonth year month < d then
      .error (.outOfRange "day is out of range for month")
    else .ok ()

/-! ## The clock -/

/-- A time of day as far as it is given, and whether the text that spells it ends there. -/
structure ClockReading where
  hour : Nat := 0
  minute : Nat := 0
  second : Nat := 0
  microsecond : Nat := 0
  ended : Bool := true
  deriving DecidableEq, Repr

/-- Whether nothing follows: no byte at all, or a NUL. -/
def endsText (bytes : List UInt8) : Bool :=
  bytes.head?.all (· == 0)

/-- The fraction of a second that digits spell. It has up to six of them; further ones are
skipped. -/
def fraction? (r : ClockReading) (bytes : List UInt8) : Option ClockReading := do
  let places := min 6 bytes.length
  let (n, rest) ← fixedDigits? places bytes
  return { r with
    microsecond := n * Nat.pow 10 (6 - places)
    ended := endsText (rest.dropWhile isDigitByte) }

/-- What follows a field of a clock reading: the end, a last byte that spells nothing, a fraction,
or something that `next` reads, after a colon where colons are used. -/
def afterField? (colons : Bool) (r : ClockReading) (next : List UInt8 → Option ClockReading) :
    List UInt8 → Option ClockReading
  | [] => some r
  | [b] => some { r with ended := b == 0 }
  | b :: rest =>
    if colons && b == byteOf ':' then next rest
    else if b == byteOf '.' || b == byteOf ',' then fraction? r rest
    else if colons then none
    else next (b :: rest)

/-- The time of day that bytes spell: hours, minutes and seconds by two digits each, with colons or
without as the first field shows, and a fraction. What follows the seconds without a point is the
fraction too. -/
def clockReading? (bytes : List UInt8) : Option ClockReading := do
  let (hour, rest) ← fixedDigits? 2 bytes
  let colons := rest.head? == some (byteOf ':')
  let r : ClockReading := { hour }
  afterField? colons r (fun bytes => do
    let (minute, rest) ← fixedDigits? 2 bytes
    let r := { r with minute }
    afterField? colons r (fun bytes => do
      let (second, rest) ← fixedDigits? 2 bytes
      let r := { r with second }
      afterField? colons r (fraction? r) rest) rest) rest

/-- The microseconds of a clock reading since midnight. -/
def ClockReading.microseconds (r : ClockReading) : Nat :=
  ((r.hour * 60 + r.minute) * 60 + r.second) * 1000000 + r.microsecond

/-- Whether a byte begins an offset. -/
def beginsOffset (b : UInt8) : Bool :=
  b == byteOf '+' || b == byteOf '-' || b == byteOf 'Z'

/-- The time of day and the microseconds of its offset that bytes spell. -/
def clockWithOffset? (bytes : List UInt8) : Option (ClockReading × Int) := do
  let r ← clockReading? (bytes.takeWhile (!beginsOffset ·))
  match bytes.dropWhile (!beginsOffset ·) with
  | [] => if r.ended then return (r, 0) else none
  | mark :: rest =>
    if mark = byteOf 'Z' then
      if endsText rest then return (r, 0) else none
    else
      let offset ← clockReading? rest
      if offset.ended then
        return (r, if mark = byteOf '-' then -(offset.microseconds : Int) else offset.microseconds)
      else none

/-- The microseconds of a day. -/
def dayMicroseconds : Nat := 86400000000

/-- A span of microseconds as days, seconds and microseconds, as far as they are not zero. -/
def spanText (span : Int) : String :=
  let days := span / dayMicroseconds
  let seconds := span % dayMicroseconds / 1000000
  let microseconds := span % 1000000
  let field (title : String) (n : Int) : List String := if n = 0 then [] else [s!"{title}={n}"]
  let fields := field "days" days ++ field "seconds" seconds ++ field "microseconds" microseconds
  "datetime.timedelta(" ++ String.intercalate ", " fields ++ ")"

/-- Check that an offset is shorter than a day. -/
def checkOffset (offset : Int) : Except TimestampFault Unit :=
  if offset.natAbs < dayMicroseconds then .ok ()
  else .error (.outOfRange (
    "offset must be a timedelta strictly between -timedelta(hours=24) and timedelta(hours=24), " ++
      s!"not {spanText offset}."))

/-- Check the fields of a time of day. -/
def ClockReading.check (r : ClockReading) : Except TimestampFault Unit :=
  if 23 < r.hour then .error (.outOfRange "hour must be in 0..23")
  else if 59 < r.minute then .error (.outOfRange "minute must be in 0..59")
  else if 59 < r.second then .error (.outOfRange "second must be in 0..59")
  else .ok ()

/-! ## Date and clock -/

/-- The bytes after the first character, by the length that its first byte tells. -/
def afterCharacter : List UInt8 → List UInt8
  | [] => []
  | b :: rest =>
    if b < 0x80 then rest
    else if b < 0xe0 then rest.drop 1
    else if b < 0xf0 then rest.drop 2
    else rest.drop 3

/-- The date, time of day and offset that a text spells. -/
def writtenTimestamp? (s : String) : Option (WrittenDate × ClockReading × Int) := do
  if s.length < 7 then none
  let bytes := s.toUTF8.toList
  let length ← dateLength? bytes
  let date ← writtenDate? (bytes.take length)
  if !date.isWeekDay then none
  let rest := bytes.drop length
  if rest.isEmpty then return (date, {}, 0)
  let (clock, offset) ← clockWithOffset? (afterCharacter rest)
  return (date, clock, offset)

/-- Check that a text is a point in time: its offset first, then its date and its time of day. -/
def checkTimestamp (s : String) : Except TimestampFault Unit :=
  match writtenTimestamp? s with
  | none => .error .malformed
  | some (date, clock, offset) => do
    checkOffset offset
    date.check
    clock.check

end CodeGauge.Text
