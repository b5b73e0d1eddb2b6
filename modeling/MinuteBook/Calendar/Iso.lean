import MinuteBook.Calendar

/-!
# Reading ISO dates

A date is read from its extended form `2025-10-02`, its basic form `20251002`, or its week forms
`2025-W40-4`, `2025W404`, `2025-W40` and `2025W40`, where a missing day is the Monday of the week.
The text must take 7, 8 or 10 bytes in UTF-8; what follows the date within that length is not
looked at.
-/

namespace MinuteBook.Date

/-- An ASCII digit. -/
def asciiDigit? (c : Char) : Option Nat := if c.isDigit then some (c.toNat - 48) else none

/-- A number of exactly `count` ASCII digits at the front of a text, and the rest. -/
def fixedDigits? : Nat → List Char → Option (Nat × List Char)
  | n, s => go n 0 s
where
  go : Nat → Nat → List Char → Option (Nat × List Char)
    | 0, acc, s => some (acc, s)
    | _ + 1, _, [] => none
    | n + 1, acc, c :: s => do go n (10 * acc + (← asciiDigit? c)) s

/-- The length of a text in UTF-8. -/
def utf8Length (s : List Char) : Nat := s.foldl (fun n c => n + c.utf8Size) 0

/-- Whether a year has a week 53: its first day is a Thursday, or a Wednesday in a leap year. -/
def hasLongYear (year : Nat) : Bool :=
  let first := daysBeforeYear year % 7
  first == 3 || (first == 2 && isLeap year)

/-- The given weekday (1 for Monday) of a week. Week 1 holds the first Thursday of its year. -/
def ofWeek? (year week weekday : Nat) : Option Date :=
  if year = 0 || week = 0 || 53 < week || (week == 53 && !hasLongYear year) ||
      weekday = 0 || 7 < weekday then none
  else
    let first := daysBeforeYear year
    let monday := if first % 7 ≤ 3 then first - first % 7 else first - first % 7 + 7
    let day := monday + (week - 1) * 7 + (weekday - 1)
    if day < first then ofYearDay? (year - 1) (day - daysBeforeYear (year - 1))
    else if day - first < yearLength year then ofYearDay? year (day - first)
    else ofYearDay? (year + 1) (day - first - yearLength year)

/-- Drops a hyphen, which must be there if the form has hyphens. -/
def hyphen? (hyphens : Bool) (s : List Char) : Option (List Char) :=
  if hyphens then
    match s with
    | '-' :: r => some r
    | _ => none
  else some s

/-- What follows the year. -/
def ofYearRest? (year : Nat) (hyphens : Bool) (s : List Char) : Option Date :=
  match s with
  | 'W' :: r => do
    let (week, r) ← fixedDigits? 2 r
    if r.isEmpty then ofWeek? year week 1
    else
      let (day, _) ← fixedDigits? 1 (← hyphen? hyphens r)
      ofWeek? year week day
  | _ => do
    let (month, r) ← fixedDigits? 2 s
    let (day, _) ← fixedDigits? 2 (← hyphen? hyphens r)
    ofDay? year month day

/-- Reads an ISO date. -/
def ofIso? (s : List Char) : Option Date :=
  let n := utf8Length s
  if n = 7 || n = 8 || n = 10 then do
    let (year, r) ← fixedDigits? 4 s
    match r with
    | '-' :: r' => ofYearRest? year true r'
    | _ => ofYearRest? year false r
  else none

end MinuteBook.Date
