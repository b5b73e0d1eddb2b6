import MinuteBook.Text.Digit

/-!
# Calendar dates

Days of the proleptic Gregorian calendar in the years 1 to 9999, times of day, and zones. A `Date`
carries the proof that its day exists.
-/

namespace MinuteBook

def isLeap (year : Nat) : Bool := year % 4 == 0 && (year % 100 != 0 || year % 400 == 0)

/-- The lengths of the twelve months of a year. -/
def monthLengths (year : Nat) : List Nat :=
  [31, if isLeap year then 29 else 28, 31, 30, 31, 30, 31, 31, 30, 31, 30, 31]

def yearLength (year : Nat) : Nat := if isLeap year then 366 else 365

/-- Says whether the day exists. -/
def isDay (year month day : Nat) : Bool :=
  1 ≤ year && year ≤ 9999 && 1 ≤ month && 1 ≤ day && day ≤ (monthLengths year)[month - 1]?.getD 0

structure Date where
  year : Nat
  month : Nat
  day : Nat
  exists_day : isDay year month day = true
  deriving DecidableEq

instance : Inhabited Date := ⟨⟨1, 1, 1, by decide⟩⟩

namespace Date

def ofDay? (year month day : Nat) : Option Date :=
  if h : isDay year month day = true then some ⟨year, month, day, h⟩ else none

/-- Strictly earlier. -/
def before (a b : Date) : Bool :=
  a.year < b.year || (a.year == b.year &&
    (a.month < b.month || (a.month == b.month && a.day < b.day)))

end Date

/-- Digits padded with zeros on the left. -/
def padded (width n : Nat) : List Char :=
  let ds := Text.natDigits n
  List.replicate (width - ds.length) '0' ++ ds

namespace Date

/-- The date as `2025-10-02`. -/
def isoChars (d : Date) : List Char :=
  padded 4 d.year ++ '-' :: padded 2 d.month ++ '-' :: padded 2 d.day

def iso (d : Date) : String := String.ofList d.isoChars

def monthNames : List String :=
  ["January", "February", "March", "April", "May", "June", "July", "August", "September",
    "October", "November", "December"]

/-- The date in the long style of the United States, `October 2, 2025`. -/
def long (d : Date) : String :=
  monthNames[d.month - 1]?.getD "" ++ " " ++ Text.nat d.day ++ ", " ++ Text.nat d.year

/-- How many days lie before the first day of a year. -/
def daysBeforeYear (year : Nat) : Nat :=
  let y := year - 1
  365 * y + y / 4 - y / 100 + y / 400

/-- How many days lie between the first day of the calendar and this one. -/
def dayNumber (d : Date) : Nat :=
  daysBeforeYear d.year + ((monthLengths d.year).take (d.month - 1)).foldl (· + ·) 0 + (d.day - 1)

/-- The day of the week, Monday being 0. The calendar begins on a Monday. -/
def weekday (d : Date) : Nat := d.dayNumber % 7

/-- The date that is `n` days after the first day of a year. -/
def ofYearDay? (year n : Nat) : Option Date :=
  go 1 n (monthLengths year)
where
  go (month n : Nat) : List Nat → Option Date
    | [] => none
    | len :: rest => if n < len then ofDay? year month (n + 1) else go (month + 1) (n - len) rest

end Date

/-- A date with a time of day, to the microsecond. -/
structure DateTime where
  date : Date
  hour : Nat
  minute : Nat
  second : Nat
  micro : Nat
  deriving DecidableEq, Inhabited

namespace DateTime

/-- The time of day as `09:30:00`, with six more places when there are microseconds. -/
def clock (t : DateTime) : List Char :=
  padded 2 t.hour ++ ':' :: padded 2 t.minute ++ ':' :: padded 2 t.second ++
    (if t.micro = 0 then [] else '.' :: padded 6 t.micro)

/-- Date and time of day with the given character between them. -/
def isoWith (separator : Char) (t : DateTime) : String :=
  String.ofList (t.date.isoChars ++ separator :: t.clock)

def iso (t : DateTime) : String := t.isoWith 'T'

/-- How many microseconds of the day have passed. -/
def microOfDay (t : DateTime) : Nat :=
  ((t.hour * 60 + t.minute) * 60 + t.second) * 1000000 + t.micro

/-- Strictly earlier. -/
def before (a b : DateTime) : Bool :=
  a.date.before b.date || (a.date == b.date && a.microOfDay < b.microOfDay)

end DateTime

/-- A zone: how many minutes its clocks are ahead of those at Greenwich. -/
structure Zone where
  minutes : Int
  within_day : minutes.natAbs < 1440
  deriving DecidableEq

instance : Inhabited Zone := ⟨⟨0, by decide⟩⟩

/-- The zone as `+02:00`. -/
def Zone.isoChars (z : Zone) : List Char :=
  (if z.minutes < 0 then '-' else '+') :: padded 2 (z.minutes.natAbs / 60) ++
    ':' :: padded 2 (z.minutes.natAbs % 60)

namespace DateTime

/-- Date, time of day and zone, with the given character between date and time. -/
def zonedIsoWith (separator : Char) (t : DateTime) (z : Zone) : String :=
  t.isoWith separator ++ String.ofList z.isoChars

/-- When the clocks of a zone show a date and time, in microseconds since the day before the
calendar begins at Greenwich. -/
def moment (t : DateTime) (z : Zone) : Nat :=
  t.date.dayNumber * 86400000000 + t.microOfDay + (1440 - z.minutes).toNat * 60000000

end DateTime

end MinuteBook
