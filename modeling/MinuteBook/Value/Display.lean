import MinuteBook.Fault
import MinuteBook.Number.Shortest
import MinuteBook.Value.Basic

/-!
# Texts of values

`Value.shown` is the form in which a message shows a value, `Value.display` is the same with a text
left bare, and `Value.plain` is what a finished document prints. A value has no text if there is
a whole number in it that is too long to be written.
-/

namespace MinuteBook.Value

/-- Texts with a comma and a space between them. -/
def commaSeparated (parts : List String) : String := String.intercalate ", " parts

/-- A call with numbers as arguments. -/
def callText (name : String) (args : List Nat) : String :=
  name ++ "(" ++ commaSeparated (args.map Text.nat) ++ ")"

/-- The numbers by which a message shows a date and time; seconds and microseconds are left out when
they are zero at the end. -/
def dateTimeArgs (t : DateTime) : List Nat :=
  let base := [t.date.year, t.date.month, t.date.day, t.hour, t.minute]
  if t.micro ≠ 0 then base ++ [t.second, t.micro]
  else if t.second ≠ 0 then base ++ [t.second]
  else base

/-- A zone as a message shows it: the time by which it is ahead, or a day less. -/
def zoneShown (z : Zone) : String :=
  if z.minutes = 0 then "datetime.timezone.utc"
  else "datetime.timezone(datetime.timedelta(" ++ (if z.minutes < 0 then "days=-1, " else "") ++
    "seconds=" ++ Text.nat (z.minutes * 60 % 86400).toNat ++ "))"

def zonedShown (t : DateTime) (z : Zone) : String :=
  "datetime.datetime(" ++
    commaSeparated ((dateTimeArgs t).map Text.nat ++ ["tzinfo=" ++ zoneShown z]) ++ ")"

/-- A byte between quotes of the given kind. -/
def escapeByte (quote : Char) (b : UInt8) : List Char :=
  if b < 0x7f then Text.escapeIn quote (Char.ofNat b.toNat)
  else '\\' :: 'x' :: Text.hex 2 b.toNat

/-- Bytes as a message shows them. -/
def bytesShown (b : List UInt8) : String :=
  let q := Text.quoteOf (b.map fun x => Char.ofNat x.toNat)
  String.ofList ('b' :: q :: b.flatMap (escapeByte q) ++ [q])

/-- The decimal text of a whole number. -/
def wholeText (n : Int) : Except Fault String :=
  match Text.int? n with
  | some digits => .ok digits
  | none => .error .tooManyDigits

theorem wholeText_of_lt {n : Int} (h : n.natAbs < Text.wholeLimit) :
    wholeText n = .ok (Text.int n) := by
  rw [wholeText, Text.int?_of_lt h]

mutual

/-- The form in which a message shows a value. -/
def shown : Value → Except Fault String
  | .null => .ok "None"
  | .bool b => .ok (if b then "True" else "False")
  | .int n => wholeText n
  | .double x => .ok x.text
  | .text s => .ok (Text.quoted s)
  | .bytes b => .ok (bytesShown b)
  | .date d => .ok (callText "datetime.date" [d.year, d.month, d.day])
  | .dateTime t => .ok (callText "datetime.datetime" (dateTimeArgs t))
  | .zoned t z => .ok (zonedShown t z)
  | .list vs => do return "[" ++ commaSeparated (← shownAll vs) ++ "]"
  | .tuple [v] => do return "(" ++ (← shown v) ++ ",)"
  | .tuple vs => do return "(" ++ commaSeparated (← shownAll vs) ++ ")"
  | .set [] => .ok "set()"
  | .set vs => do return "\x7b" ++ commaSeparated (← shownAll vs) ++ "\x7d"
  | .mapping es => do return "\x7b" ++ commaSeparated (← shownEntries es) ++ "\x7d"

def shownAll : List Value → Except Fault (List String)
  | [] => .ok []
  | v :: vs => do return (← shown v) :: (← shownAll vs)

def shownEntries : Record → Except Fault (List String)
  | [] => .ok []
  | (k, v) :: es => do return ((← shown k) ++ ": " ++ (← shown v)) :: (← shownEntries es)

end

/-- The text of a value inside a message. -/
def display : Value → Except Fault String
  | .text s => .ok s
  | .date d => .ok d.iso
  | .dateTime t => .ok (t.isoWith ' ')
  | .zoned t z => .ok (t.zonedIsoWith ' ' z)
  | v => v.shown

/-- A double that is a whole number is printed as one. -/
def doublePlain (x : Double) : String :=
  match x.whole? with
  | some n => Text.int n
  | none => x.text

mutual

/-- What a document prints for a value: nothing for null, bytes, sets and mappings, and the items of
a sequence with commas. -/
def plain : Value → Except Fault String
  | .null => .ok ""
  | .text s => .ok s
  | .bool b => .ok (if b then "true" else "false")
  | .int n => wholeText n
  | .double x => .ok (doublePlain x)
  | .date d => .ok d.iso
  | .dateTime t => .ok t.iso
  | .zoned t z => .ok (t.zonedIsoWith 'T' z)
  | .list vs => do return commaSeparated (← plainAll vs)
  | .tuple vs => do return commaSeparated (← plainAll vs)
  | .bytes _ | .set _ | .mapping _ => .ok ""

/-- The printed items of a sequence; mappings are passed over. -/
def plainAll : List Value → Except Fault (List String)
  | [] => .ok []
  | v :: vs => if v.isMapping then plainAll vs else do return (← plain v) :: (← plainAll vs)

end

end MinuteBook.Value
