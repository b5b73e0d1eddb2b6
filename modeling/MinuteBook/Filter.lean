import MinuteBook.Calendar.Iso
import MinuteBook.Number.Grouped
import MinuteBook.Number.Numeral
import MinuteBook.Value.Basic

/-!
# Filters

A filter turns the text of a value into the text that a document prints. It sees the value too.
A filter never fails: what it cannot read it leaves as it is.
-/

namespace MinuteBook

abbrev Filter := Value → String → String

namespace Filter

/-- The date of a value; a text must be an ISO date as a whole. -/
def date? : Value → Option Date
  | .dateTime t | .zoned t _ => some t.date
  | .date d => some d
  | .text s => Date.ofIso? (Text.strip s.toList)
  | _ => none

/-- Prints a date in the long style. -/
def longDate : Filter := fun v text =>
  match date? v with
  | some d => d.long
  | none => text

/-- The amount that a text spells, as a sign and a number of units. Dollar signs, commas and
percent signs in it are passed over; infinities and NaN are no amounts. -/
def amount? (text : String) : Option (Bool × Nat) :=
  let digits := text.toList.filter fun c => !(c == '$' || c == ',' || c == '%')
  match Numeral.double? (String.ofList digits) with
  | some (.finite neg units) => some (neg, units)
  | _ => none

/-- Prints an amount of money. -/
def money : Filter := fun _ text =>
  match amount? text with
  | some (neg, units) =>
    (if neg && units != 0 then "-$" else "$") ++
      String.ofList (hundredthsText (Double.hundredths units))
  | none => text

/-- Drops zeros at the end, then points. -/
def dropTrailing (s : List Char) : List Char :=
  ((s.reverse.dropWhile (· == '0')).dropWhile (· == '.')).reverse

/-- Prints percent points with at most two places. -/
def pct : Filter := fun _ text =>
  match amount? text with
  | some (neg, units) =>
    let digits := hundredthsText (Double.hundredths units)
    let kept := dropTrailing (if neg then '-' :: digits else digits)
    (if kept = ['-', '0'] || kept = [] then "0" else String.ofList kept) ++ "%"
  | none => text

end Filter

/-- The filters known by name. -/
abbrev Filters := List (String × Filter)

namespace Filters

def builtin : Filters :=
  [("longDate", Filter.longDate), ("money", Filter.money), ("pct", Filter.pct)]

/-- Adds a filter, or replaces the one of that name. -/
def register (fs : Filters) (name : String) (f : Filter) : Filters :=
  (name, f) :: fs.filter fun e => e.1 != name

/-- Applies the named filter. Without a name, and for a name that is not known, the text stays. -/
def apply (fs : Filters) (name : Option String) (v : Value) (text : String) : String :=
  match name.bind fun n => fs.lookup n with
  | some f => f v text
  | none => text

end Filters

end MinuteBook
