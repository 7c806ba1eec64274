import TagFilter.Text.Basic

/-!
# The calendar

The Gregorian calendar extended to all years, and moments in it to the nanosecond.  `dayNumber`
counts the days from the first of March of year 0 and `ofDayNumber` goes back, so a moment can be
moved by any number of seconds (`Moment.addSeconds`).
-/

namespace TagFilter.Calendar

/-- Whether a year has a twenty-ninth of February. -/
def isLeap (year : Int) : Bool := year % 4 == 0 && (year % 100 != 0 || year % 400 == 0)

/-- The number of days in a month of a year. -/
def daysIn (year : Int) (month : Nat) : Nat :=
  match month with
  | 2 => if isLeap year then 29 else 28
  | 4 | 6 | 9 | 11 => 30
  | _ => 31

/-- The number of days before a month in a year without a leap day. -/
def daysBefore (month : Nat) : Nat :=
  (List.range (month - 1)).foldl (fun days i => days + daysIn 1 (i + 1)) 0

/-- The month and the day of the month on a day of a year, the first day being 1. -/
def ofYearDay? (year : Int) (day : Nat) : Option (Nat × Nat) :=
  ((List.range 12).map (· + 1)).findSome? fun month =>
    let before := daysBefore month + if isLeap year && 2 < month then 1 else 0
    if before < day && day ≤ before + daysIn year month then some (month, day - before) else none

/-- A day of the calendar. -/
structure Day where
  year : Int
  month : Nat
  day : Nat
  deriving DecidableEq, Repr

/-- The days from the first of March of year 0 to a day. -/
def Day.number (d : Day) : Int :=
  let year := if d.month ≤ 2 then d.year - 1 else d.year
  let era := year.fdiv 400
  let yearOfEra := year - era * 400
  let shifted := (d.month + 9) % 12
  let dayOfYear : Int := (153 * shifted + 2) / 5 + d.day - 1
  era * 146097 + yearOfEra * 365 + yearOfEra / 4 - yearOfEra / 100 + dayOfYear

/-- The day so many days after the first of March of year 0. -/
def Day.ofNumber (n : Int) : Day :=
  let era := n.fdiv 146097
  let dayOfEra := n - era * 146097
  let yearOfEra := (dayOfEra - dayOfEra / 1460 + dayOfEra / 36524 - dayOfEra / 146096) / 365
  let dayOfYear := dayOfEra - (365 * yearOfEra + yearOfEra / 4 - yearOfEra / 100)
  let shifted := (5 * dayOfYear + 2) / 153
  let day := dayOfYear - (153 * shifted + 2) / 5 + 1
  let month := if shifted < 10 then shifted + 3 else shifted - 9
  let year := yearOfEra + era * 400 + if month ≤ 2 then 1 else 0
  ⟨year, month.toNat, day.toNat⟩

/-- A moment of a day. -/
structure Moment where
  date : Day
  hour : Nat := 0
  minute : Nat := 0
  second : Nat := 0
  nanosecond : Nat := 0
  deriving DecidableEq, Repr

/-- The moment so many seconds later. -/
def Moment.addSeconds (m : Moment) (seconds : Int) : Moment :=
  let total := (m.hour * 3600 + m.minute * 60 + m.second : Nat) + seconds
  let days := total.fdiv 86400
  let inDay := (total - days * 86400).toNat
  { m with
    date := Day.ofNumber (m.date.number + days)
    hour := inDay / 3600
    minute := inDay / 60 % 60
    second := inDay % 60 }

/-- A number in decimal digits, padded with zeros to a width. -/
def padded (width : Nat) (n : Nat) : Text :=
  let digits := Text.ofNat n
  List.replicate (width - digits.length) (byte '0') ++ digits

/-- A moment as `2001-08-01T10:20:30.5Z`: the fraction only as far as it goes. -/
def Moment.toText (m : Moment) : Text :=
  let sign : Text := if m.date.year < 0 then "-" else []
  let fraction := (padded 9 m.nanosecond).reverse.dropWhile (· == byte '0')
  sign ++ padded 4 m.date.year.natAbs ++ "-" ++ padded 2 m.date.month ++ "-" ++
    padded 2 m.date.day ++ "T" ++ padded 2 m.hour ++ ":" ++ padded 2 m.minute ++ ":" ++
    padded 2 m.second ++ (if fraction.isEmpty then [] else byte '.' :: fraction.reverse) ++ "Z"

end TagFilter.Calendar
