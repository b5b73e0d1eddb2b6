import MinuteBook.Calendar.Iso
import MinuteBook.Fault
import MinuteBook.Number.Numeral
import MinuteBook.Value.Record

/-!
# Reading values

A value taken as a truth, a blank, a whole number, a date, a sequence or a mapping.
-/

namespace MinuteBook.Value

/-- Everything counts as present except null, false, zero and what is empty. -/
def isPresent : Value → Bool
  | .null => false
  | .bool b => b
  | .int n => n != 0
  | .double x => !x.isZero
  | .text s => s != ""
  | .bytes b => !b.isEmpty
  | .date _ | .dateTime _ | .zoned _ _ => true
  | .list vs | .tuple vs | .set vs => !vs.isEmpty
  | .mapping es => !es.isEmpty

/-- The value if it is present, else another. -/
def orElse (v w : Value) : Value := if v.isPresent then v else w

/-- The truth of a value in a document: a truth value itself, a text that is not empty, a number
that is not zero. Anything else is false. -/
def holds : Value → Bool
  | .bool b => b
  | .text s => s != ""
  | .int n => n != 0
  | .double x => !x.isZero
  | _ => false

/-- Null, blank text, empty sequences and empty mappings are no answer; zero and false are. -/
def isBlank : Value → Bool
  | .null => true
  | .text s => (Text.strip s.toList).isEmpty
  | .list vs | .tuple vs => vs.isEmpty
  | .mapping es => es.isEmpty
  | _ => false

/-- The text of bytes that are all in ASCII. -/
def ascii? (b : List UInt8) : Option String :=
  if b.all (· < 128) then some (String.ofList (b.map fun x => Char.ofNat x.toNat)) else none

/-- The whole number that a text spells. -/
def spelledInt (s : Option String) : Except Fault Int :=
  match s.bind Numeral.int? with
  | some n => .ok n
  | none => .error .badNumeral

theorem eq_of_spelledInt_error {s : Option String} {f : Fault} (h : spelledInt s = .error f) :
    f = .badNumeral := by
  unfold spelledInt at h
  split at h
  · exact absurd h (by simp)
  · exact (Except.error.inj h).symm

/-- A whole number: a double is cut off at the point, a text or bytes must spell one. -/
def toInt : Value → Except Fault Int
  | .bool b => .ok b.toNat
  | .int n => .ok n
  | .double (.finite neg units) => .ok (Double.signed neg (units / Double.one))
  | .double (.infinite _) => .error .infinite
  | .double (.nan _) => .error .notANumber
  | .text s => spelledInt s
  | .bytes b => spelledInt (ascii? b)
  | _ => .error .notNumeric

/-- The calendar date of a value. Of a text the first ten characters after the blanks are read,
so a time of day may follow. -/
def calendarDate? : Value → Option Date
  | .date d => some d
  | .dateTime t => some t.date
  | .zoned t _ => some t.date
  | .text s => Date.ofIso? ((Text.strip s.toList).take 10)
  | _ => none

/-- The date of a value as a value. A date with a time of day stays as it is. -/
def dated? (v : Value) : Option Value :=
  match v with
  | .dateTime t => some (.dateTime t)
  | .zoned t z => some (.zoned t z)
  | v => v.calendarDate?.map .date

/-- Says whether two answers name the same thing. Mappings compare by their `id`; what is absent
is never the same as anything. -/
def sameAnswer (a b : Value) : Bool :=
  match a, b with
  | .mapping es, .mapping es' =>
    match Record.get? es "id", Record.get? es' "id" with
    | some i, some j => i ≠ .null && j ≠ .null && i.equals j
    | _, _ => false
  | _, _ => scalarsEqual a b

/-- The items that a value is made of: of a text its characters, of bytes their numbers, of a
mapping its keys. -/
def iterate : Value → Except Fault (List Value)
  | .list vs | .tuple vs | .set vs => .ok vs
  | .text s => .ok (s.toList.map fun c => .text (String.singleton c))
  | .bytes b => .ok (b.map fun x => .int x.toNat)
  | .mapping es => .ok (Record.keys es)
  | _ => .error .notIterable

/-- The value under a key that must be there. -/
def require (v : Value) (key : String) : Except Fault Value :=
  match v with
  | .mapping es => match Record.get? es key with
    | some w => .ok w
    | none => .error (.absentKey key)
  | _ => .error .notKeyed

/-- The value under a key, or a default. -/
def getD (v : Value) (key : String) (default : Value) : Except Fault Value :=
  match v with
  | .mapping es => .ok ((Record.get? es key).getD default)
  | _ => .error .notRecord

/-- The value under a key, null if there is none. -/
def get (v : Value) (key : String) : Except Fault Value := v.getD key .null

mutual

/-- Says whether a value can be a key: nothing in it may be a list, a set or a mapping. -/
def isHashable : Value → Bool
  | .list _ | .set _ | .mapping _ => false
  | .tuple vs => areHashable vs
  | _ => true

def areHashable : List Value → Bool
  | [] => true
  | v :: vs => isHashable v && areHashable vs

end

/-- A pair out of an item of a sequence of pairs. -/
def toPair (item : Value) : Except Fault (Value × Value) := do
  match ← item.iterate with
  | [k, v] => if k.isHashable then return (k, v) else throw .notHashable
  | _ => throw .notPair

/-- A mapping out of a mapping or a sequence of pairs. -/
def toRecord (v : Value) : Except Fault Record :=
  match v with
  | .mapping es => .ok es
  | _ => do return .ofPairs (← (← v.iterate).mapM toPair)

end MinuteBook.Value
