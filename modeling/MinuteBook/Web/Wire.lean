import MinuteBook.Json.Encoding
import MinuteBook.Json.Reader
import MinuteBook.Json.Writer
import MinuteBook.Value.Display
import MinuteBook.Value.Order

/-!
# Values in requests and responses

The body of a request is read as JSON if its content type says so. In a response sequences are all
alike and dates are texts, such as `Wed, 01 Jan 2025 00:00:00 GMT`. The entries of a mapping are
sent in the order of their keys, which must have one.
-/

namespace MinuteBook.Web.Wire

/-- The name of a content type, without its parameters. -/
def typeName (contentType : String) : List Char :=
  (Text.strip (contentType.toList.takeWhile (· != ';'))).map Char.toLower

/-- Says whether a content type is one of JSON. -/
def isJson (contentType : String) : Bool :=
  let name := typeName contentType
  name == "application/json".toList ||
    ("application/".toList.isPrefixOf name && "+json".toList.isSuffixOf name)

/-- The data in a body. -/
def read (contentType : String) (body : List UInt8) : Option Value :=
  if isJson contentType then (Json.decode? body).bind Json.read else none

def dayNames : List String := ["Mon", "Tue", "Wed", "Thu", "Fri", "Sat", "Sun"]

/-- A day with the beginning of a second of it. -/
def dateText (d : Date) (clock : List Char) : String :=
  dayNames[d.weekday]?.getD "" ++ ", " ++ String.ofList (padded 2 d.day) ++ " " ++
    String.ofList ((Date.monthNames[d.month - 1]?.getD "").toList.take 3) ++ " " ++
    String.ofList (padded 4 d.year) ++ " " ++ String.ofList clock ++ " GMT"

/-- The day before a day or behind it, if it is in the calendar. -/
def neighbour? (d : Date) (behind : Bool) : Option Date :=
  if behind then
    (Date.ofDay? d.year d.month (d.day + 1)).or <| (Date.ofDay? d.year (d.month + 1) 1).or <|
      Date.ofDay? (d.year + 1) 1 1
  else if d.day > 1 then Date.ofDay? d.year d.month (d.day - 1)
  else if d.month > 1 then
    Date.ofDay? d.year (d.month - 1) ((monthLengths d.year)[d.month - 2]?.getD 0)
  else Date.ofDay? (d.year - 1) 12 31

/-- A date and time of a zone as it is at Greenwich, if that is in the calendar. -/
def atGreenwich? (t : DateTime) (z : Zone) : Option DateTime :=
  let minutes : Int := t.hour * 60 + t.minute - z.minutes
  let date := if minutes < 0 then neighbour? t.date false
    else if 1440 ≤ minutes then neighbour? t.date true
    else some t.date
  let inDay := (minutes % 1440).toNat
  date.map fun date => { t with date, hour := inDay / 60, minute := inDay % 60 }

/-- The time of day to the second. -/
def clockText (t : DateTime) : List Char :=
  padded 2 t.hour ++ ':' :: padded 2 t.minute ++ ':' :: padded 2 t.second

/-- The text of a key. Only texts, null, truth values and numbers have one. -/
def keyText : Value → Except Fault String
  | .text s => .ok s
  | .int n => Value.wholeText n
  | v => if v = .null || v.number?.isSome then .ok (Json.write .ascii v) else .error .notKeyText

/-- The entries of a mapping in the order of their keys, each with what becomes of its value. There
may be a fault in that, but a fault of the keys comes first. -/
def encodeSorted (entries : List (Value × Except Fault Value)) : Except Fault Value :=
  match Value.sortBy? Prod.fst entries with
  | none => .error .incomparable
  | some sorted => do
    let encoded ← sorted.mapM fun e => do return (← keyText e.1, ← e.2)
    return .mapping (Record.ofPairs (encoded.map fun e => (.text e.1, e.2)))

mutual

/-- A value as it stands in a response. Keys are texts there, numbers must not be too long, and
bytes and sets cannot be sent. -/
def encode : Value → Except Fault Value
  | .date d => .ok (.text (dateText d "00:00:00".toList))
  | .dateTime t => .ok (.text (dateText t.date (clockText t)))
  | .zoned t z => match atGreenwich? t z with
    | some t => .ok (.text (dateText t.date (clockText t)))
    | none => .error .outOfRange
  | .bytes _ | .set _ => .error .notSendable
  | .list vs => do return .list (← encodeAll vs)
  | .tuple vs => do return .list (← encodeAll vs)
  | .mapping es => encodeSorted (encodeEntries es)
  | .int n => do
    let _ ← Value.wholeText n
    return .int n
  | v => .ok v

def encodeAll : List Value → Except Fault (List Value)
  | [] => .ok []
  | v :: vs => do return (← encode v) :: (← encodeAll vs)

def encodeEntries : Record → List (Value × Except Fault Value)
  | [] => []
  | (k, v) :: es => (k, encode v) :: encodeEntries es

end

end MinuteBook.Web.Wire
