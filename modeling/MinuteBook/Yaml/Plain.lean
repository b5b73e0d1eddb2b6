import MinuteBook.Number.Numeral
import MinuteBook.Text.Split
import MinuteBook.Value.Basic

/-!
# Plain scalars in YAML

What a scalar without quotes stands for depends on how it looks: null, a truth value, a number, a
date, alone or with a time of day and a zone, or else a text. Numbers may be written in base sixty,
with colons.
-/

namespace MinuteBook.Yaml

/-- Why a text is no document. -/
inductive Error where
  | malformed
  /-- A scalar looks like a number, a date or a character, but is none. -/
  | badScalar
  /-- A number is out of all range. -/
  | outOfRange
  deriving DecidableEq

namespace Plain

def nulls : List String := ["", "~", "null", "Null", "NULL"]

def trues : List String := ["yes", "Yes", "YES", "true", "True", "TRUE", "on", "On", "ON"]

def falses : List String := ["no", "No", "NO", "false", "False", "FALSE", "off", "Off", "OFF"]

/-- The scalar that merges the entries of another mapping, where it is a key. -/
def mergeKey : String := "<<"

/-- The scalar that is a text where it is a key. -/
def defaultKey : String := "="

/-- Plain scalars that are no values. -/
def reserved : List String := [mergeKey, defaultKey]

def isUnderscore (c : Char) : Bool := c == '_'

def digitsOf (s : List Char) : List Nat :=
  (s.filter fun c => !isUnderscore c).map fun c =>
    if c.isDigit then c.toNat - 48 else if c.isUpper then c.toNat - 55 else c.toNat - 87

/-- The number that digits spell in a base. -/
def inBase (base : Nat) (ds : List Nat) : Nat := ds.foldl (fun n d => base * n + d) 0

def isBinaryDigit (c : Char) : Bool := c == '0' || c == '1' || isUnderscore c

def isOctalDigit (c : Char) : Bool := ('0' ≤ c && c ≤ '7') || isUnderscore c

def isHexDigit (c : Char) : Bool :=
  c.isDigit || ('a' ≤ c && c ≤ 'f') || ('A' ≤ c && c ≤ 'F') || isUnderscore c

def isDecimalDigit (c : Char) : Bool := c.isDigit || isUnderscore c

/-- A number in a base with its prefix gone. There must be a digit among the underscores. -/
def based (base : Nat) (s : List Char) : Except Error Nat :=
  match digitsOf s with
  | [] => .error .badScalar
  | ds => .ok (inBase base ds)

/-- A decimal number without a sign. -/
def decimal (s : List Char) : Except Error Nat :=
  let ds := digitsOf s
  if Text.maxDigits < ds.length then .error .badScalar else .ok (inBase 10 ds)

/-- A part of a number in base sixty, other than the first. -/
def isSixtieth : List Char → Bool
  | [c] => c.isDigit
  | [c, d] => '0' ≤ c && c ≤ '5' && d.isDigit
  | _ => false

/-- A whole number in base sixty. -/
def sixties? (s : List Char) : Option (Except Error Nat) :=
  match Text.split ':' s with
  | first :: second :: rest =>
    if first.all isDecimalDigit && (second :: rest).all isSixtieth then
      some ((decimal first).map fun n =>
        inBase 60 (n :: (second :: rest).map fun part => inBase 10 (digitsOf part)))
    else none
  | _ => none

/-- A whole number without a sign, if the text looks like one. -/
def magnitude? (s : List Char) : Option (Except Error Nat) :=
  match s with
  | ['0'] => some (.ok 0)
  | '0' :: 'b' :: d :: r => if (d :: r).all isBinaryDigit then some (based 2 (d :: r)) else none
  | '0' :: 'x' :: d :: r => if (d :: r).all isHexDigit then some (based 16 (d :: r)) else none
  | '0' :: r => if r.all isOctalDigit then some (based 8 ('0' :: r)) else none
  | d :: r =>
    if !d.isDigit then none
    else if r.all isDecimalDigit then some (decimal (d :: r))
    else sixties? (d :: r)
  | [] => none

/-- A whole number, if the text looks like one. -/
def int? (s : List Char) : Option (Except Error Value) :=
  let (neg, body) := Numeral.sign s
  (magnitude? body).map fun r => r.map fun n => .int (if neg then -(n : Int) else n)

/-- An exponent, which must have a sign, or nothing. -/
def isExponent : List Char → Bool
  | [] => true
  | e :: sign :: d :: r =>
    (e == 'e' || e == 'E') && (sign == '+' || sign == '-') && (d :: r).all Char.isDigit
  | _ => false

/-- Says whether a text looks like a number with a point: a number that begins with the point has
no sign, and has a digit behind it. -/
def looksLikeDouble (s : List Char) : Bool :=
  let tail := fun r => isExponent (r.dropWhile isDecimalDigit)
  match s with
  | '.' :: d :: r => d.isDigit && tail r
  | _ =>
    let (_, body) := Numeral.sign s
    match body with
    | d :: r => d.isDigit && match r.dropWhile isDecimalDigit with
      | '.' :: r' => tail r'
      | _ => false
    | [] => false

def infinities : List String := [".inf", ".Inf", ".INF"]

def nans : List String := [".nan", ".NaN", ".NAN"]

/-- The mark of NaN in YAML. -/
def nanMark : Nat := 0

/-- The digits and the point of a number, without underscores. -/
def bare (s : List Char) : String := String.ofList (s.filter fun c => !isUnderscore c)

/-- The first part of a number in base sixty with a point, and the others, if the text looks like
one: the last part has the point, and no exponent. -/
def sixtiethParts? (s : List Char) : Option (List Char × List (List Char)) :=
  match Text.split ':' (s.takeWhile (· != '.')), s.dropWhile (· != '.') with
  | (d :: first) :: second :: rest, _ :: fraction =>
    if d.isDigit && first.all isDecimalDigit && (second :: rest).all isSixtieth &&
        fraction.all isDecimalDigit then
      some (d :: first, (second :: rest).dropLast ++
        [((second :: rest).getLast?.getD []) ++ '.' :: fraction])
    else none
  | _, _ => none

/-- The number that parts in base sixty spell, from the last part on. Every product and every sum
is rounded. -/
def ofSixtieths (parts : List (List Char)) : Except Error Double :=
  go .zero 1 (parts.reverse.map fun part => (Numeral.double? (bare part)).getD .zero)
where
  go (sum : Double) (base : Nat) : List Double → Except Error Double
    | [] => .ok sum
    | digit :: digits =>
      let weight := Double.ofInt base
      if weight.isFinite then go (sum.add (digit.mul weight)) (60 * base) digits
      else .error .outOfRange

/-- A double, if the text looks like one. -/
def double? (s : List Char) : Option (Except Error Double) :=
  let (neg, body) := Numeral.sign s
  if infinities.contains (String.ofList body) then some (.ok (.infinite neg))
  else if nans.contains (String.ofList s) then some (.ok (.nan nanMark))
  else if looksLikeDouble s then (Numeral.double? (bare s)).map .ok
  else (sixtiethParts? body).map fun parts =>
    (ofSixtieths (parts.1 :: parts.2)).map fun x => if neg then x.negated else x

/-- The number that a short run of digits spells. -/
def count (s : List Char) : Nat := inBase 10 (digitsOf s)

/-- One digit or two at the front of a text, and the rest. -/
def oneOrTwo? : List Char → Option (Nat × List Char)
  | a :: b :: r =>
    if !a.isDigit then none
    else if b.isDigit then some (count [a, b], r)
    else some (count [a], b :: r)
  | [a] => if a.isDigit then some (count [a], []) else none
  | [] => none

/-- A colon and two digits at the front of a text, and the rest. -/
def colonTwo? : List Char → Option (Nat × List Char)
  | ':' :: a :: b :: r => if a.isDigit && b.isDigit then some (count [a, b], r) else none
  | _ => none

/-- The year, the month and the day at the front of a text, and the rest. -/
def dayParts? : List Char → Option (Nat × Nat × Nat × List Char)
  | a :: b :: c :: d :: '-' :: r =>
    if [a, b, c, d].all Char.isDigit then do
      match ← oneOrTwo? r with
      | (month, '-' :: r) =>
        let (day, r) ← oneOrTwo? r
        return (count [a, b, c, d], month, day, r)
      | _ => none
    else none
  | _ => none

def isBlank (c : Char) : Bool := c == ' ' || c == '\t'

/-- What follows the mark between a date and the time of day: the letter T, or blanks. -/
def afterTimeMark? : List Char → Option (List Char)
  | 'T' :: r => some r
  | 't' :: r => some r
  | c :: r => if isBlank c then some (r.dropWhile isBlank) else none
  | [] => none

/-- The microseconds behind the seconds, and what follows them; further places are cut off. -/
def fraction : List Char → Nat × List Char
  | '.' :: r =>
    (count ((r.takeWhile Char.isDigit ++ List.replicate 6 '0').take 6), r.dropWhile Char.isDigit)
  | s => (0, s)

/-- The minutes by which a zone is ahead: those of an hour, and perhaps more behind a colon. -/
def zoneMinutes? (s : List Char) : Option Nat := do
  match ← oneOrTwo? s with
  | (hours, []) => return hours * 60
  | (hours, r) =>
    match ← colonTwo? r with
    | (minutes, []) => return hours * 60 + minutes
    | _ => none

/-- The zone that ends a time, in minutes: the letter Z, or a sign and a time. There may be none. -/
def zone? (s : List Char) : Option (Option Int) :=
  if s.isEmpty then some none
  else match s.dropWhile isBlank with
    | ['Z'] => some (some 0)
    | '+' :: r => (zoneMinutes? r).map fun n => some n
    | '-' :: r => (zoneMinutes? r).map fun n => some (-n)
    | _ => none

/-- A time of day that exists. -/
def atTime? (d : Date) (hour minute second micro : Nat) : Option DateTime :=
  if hour < 24 && minute < 60 && second < 60 then some ⟨d, hour, minute, second, micro⟩ else none

/-- A value that must exist, since the text looks like one. -/
def expected (v : Option Value) : Except Error Value :=
  match v with
  | some v => .ok v
  | none => .error .badScalar

/-- A date and time with its zone, whose clocks are less than a day ahead or behind. -/
def inZone? (t : DateTime) : Option Int → Option Value
  | none => some (.dateTime t)
  | some n => if h : n.natAbs < 1440 then some (.zoned t ⟨n, h⟩) else none

/-- A date with a time of day, if the text looks like one. -/
def dateTime? (s : List Char) : Option (Except Error Value) := do
  let (year, month, day, r) ← dayParts? s
  let (hour, r) ← oneOrTwo? (← afterTimeMark? r)
  let (minute, r) ← colonTwo? r
  let (second, r) ← colonTwo? r
  let (micro, r) := fraction r
  let zone ← zone? r
  return expected ((Date.ofDay? year month day).bind fun d =>
    (atTime? d hour minute second micro).bind fun t => inZone? t zone)

/-- A date, if the text looks like one. Alone it has two digits for the month and for the day. -/
def date? (s : List Char) : Option (Except Error Value) := do
  match ← dayParts? s with
  | (year, month, day, []) =>
    if s.length = 10 then return expected ((Date.ofDay? year month day).map .date) else none
  | _ => none

/-- The value of a plain scalar. -/
def value (s : List Char) : Except Error Value :=
  let word := String.ofList s
  if nulls.contains word then .ok .null
  else if trues.contains word then .ok (.bool true)
  else if falses.contains word then .ok (.bool false)
  else if reserved.contains word then .error .malformed
  else match double? s with
    | some x => x.map .double
    | none => (((int? s).or (date? s)).or (dateTime? s)).getD (.ok (.text word))

end Plain

end MinuteBook.Yaml
