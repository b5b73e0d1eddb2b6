import MinuteBook.Number.Numeral
import MinuteBook.Text.Surrogate
import MinuteBook.Value.Record

/-!
# Reading JSON

JSON text as a value. Whole numbers stay exact, numbers with a fraction or an exponent are doubles,
and the words `NaN`, `Infinity` and `-Infinity` are doubles too. Of entries with the same key the
last one counts. Control characters inside texts, leading zeros, trailing commas and anything
behind the value are refused.
-/

namespace MinuteBook.Json

def isSpace (c : Char) : Bool := c == ' ' || c == '\t' || c == '\n' || c == '\r'

def skip (s : List Char) : List Char := s.dropWhile isSpace

def hexDigit? (c : Char) : Option Nat :=
  if c.isDigit then some (c.toNat - 48)
  else if 'a' ≤ c ∧ c ≤ 'f' then some (c.toNat - 87)
  else if 'A' ≤ c ∧ c ≤ 'F' then some (c.toNat - 55)
  else none

/-- The number that four hexadecimal digits spell. -/
def hex4? (a b c d : Char) : Option Nat := do
  return (((← hexDigit? a) * 16 + (← hexDigit? b)) * 16 + (← hexDigit? c)) * 16 + (← hexDigit? d)

/-- The character behind a backslash, other than `u`. -/
def escape? : Char → Option Nat
  | '"' => some 0x22
  | '\\' => some 0x5c
  | '/' => some 0x2f
  | 'b' => some 8
  | 'f' => some 12
  | 'n' => some 10
  | 'r' => some 13
  | 't' => some 9
  | _ => none

/-- The code units of a text whose opening quote has been read, and what follows the closing
quote. A half that is spelled by an escape is the unit of the half, and one that stands as it is,
that of the character that keeps it; so only escapes are joined. -/
def readUnits : List Char → Option (List Nat × List Char)
  | [] => none
  | '"' :: r => some ([], r)
  | '\\' :: 'u' :: a :: b :: c :: d :: r => do
    let n ← hex4? a b c d
    let (ns, rest) ← readUnits r
    return (n :: ns, rest)
  | '\\' :: e :: r => do
    let n ← escape? e
    let (ns, rest) ← readUnits r
    return (n :: ns, rest)
  | c :: r => do
    if c.toNat < 32 then none
    let (ns, rest) ← readUnits r
    return (c.toNat :: ns, rest)

def readText (s : List Char) : Option (String × List Char) :=
  (readUnits s).map fun p => (String.ofList (Text.ofUnits p.1), p.2)

def digitsOf (s : List Char) : List Nat := s.map fun c => c.toNat - 48

/-- The digits behind a point, if any, and the rest. -/
def readFraction (s : List Char) : List Char × List Char :=
  match s with
  | '.' :: r =>
    let ds := r.takeWhile Char.isDigit
    if ds.isEmpty then ([], s) else (ds, r.dropWhile Char.isDigit)
  | _ => ([], s)

/-- The exponent, if any, and the rest. -/
def readExponent (s : List Char) : Option Int × List Char :=
  match s with
  | e :: r =>
    if e == 'e' || e == 'E' then
      let (neg, body) := Numeral.sign r
      let ds := body.takeWhile Char.isDigit
      let n : Int := Text.ofDigits (digitsOf ds)
      if ds.isEmpty then (none, s) else (some (if neg then -n else n), body.dropWhile Char.isDigit)
    else (none, s)
  | [] => (none, s)

/-- The digits before the point: a single zero, or digits that begin with another one. -/
def readWhole (s : List Char) : List Char × List Char :=
  match s with
  | '0' :: r => (['0'], r)
  | _ => (s.takeWhile Char.isDigit, s.dropWhile Char.isDigit)

def readNumber (s : List Char) : Option (Value × List Char) :=
  let (neg, body) := match s with
    | '-' :: r => (true, r)
    | _ => (false, s)
  let (whole, r) := readWhole body
  let (fraction, r) := readFraction r
  let (exponent, r) := readExponent r
  if whole.isEmpty then none
  else if fraction.isEmpty && exponent.isNone then
    let n : Int := Text.ofDigits (digitsOf whole)
    if Text.maxDigits < whole.length then none else some (.int (if neg then -n else n), r)
  else
    some (.double (.ofDecimal neg (digitsOf (whole ++ fraction))
      (exponent.getD 0 - fraction.length)), r)

/-- The mark of NaN in JSON. -/
def nanMark : Nat := 1

/-- The words that stand for values. -/
def words : List (List Char × Value) :=
  [("null".toList, .null), ("true".toList, .bool true), ("false".toList, .bool false),
    ("NaN".toList, .double (.nan nanMark)), ("Infinity".toList, .double (.infinite false)),
    ("-Infinity".toList, .double (.infinite true))]

/-- A word or a number. -/
def readAtom (s : List Char) : Option (Value × List Char) :=
  match words.findSome? fun w => (w.1.isPrefixOf? s).map (w.2, ·) with
  | some p => some p
  | none => readNumber s

mutual

/-- The value at the front of a text, and the rest. The number bounds the depth and length of what
is read. -/
def readValue : Nat → List Char → Option (Value × List Char)
  | 0, _ => none
  | n + 1, s =>
    match s with
    | '"' :: r => (readText r).map fun p => (.text p.1, p.2)
    | '[' :: r =>
      match skip r with
      | ']' :: rest => some (.list [], rest)
      | r' => (readItems n r').map fun p => (.list p.1, p.2)
    | '\x7b' :: r =>
      match skip r with
      | '\x7d' :: rest => some (.mapping [], rest)
      | r' => (readEntries n r').map fun p => (.mapping (Record.ofPairs p.1), p.2)
    | _ => readAtom s

/-- Items up to the closing bracket. -/
def readItems : Nat → List Char → Option (List Value × List Char)
  | 0, _ => none
  | n + 1, s => do
    let (v, r) ← readValue n s
    match skip r with
    | ']' :: rest => return ([v], rest)
    | ',' :: r' =>
      let (vs, rest) ← readItems n (skip r')
      return (v :: vs, rest)
    | _ => none

/-- Entries up to the closing brace. -/
def readEntries : Nat → List Char → Option (Record × List Char)
  | 0, _ => none
  | n + 1, s =>
    match s with
    | '"' :: r => do
      let (key, r) ← readText r
      match skip r with
      | ':' :: r =>
        let (v, r) ← readValue n (skip r)
        match skip r with
        | '\x7d' :: rest => return ([(.text key, v)], rest)
        | ',' :: r' =>
          let (es, rest) ← readEntries n (skip r')
          return ((.text key, v) :: es, rest)
        | _ => none
      | _ => none
    | _ => none

end

/-- Reads a JSON text. -/
def read (text : String) : Option Value :=
  let s := text.toList
  match readValue (2 * s.length + 2) (skip s) with
  | some (v, rest) => if skip rest = [] then some v else none
  | none => none

end MinuteBook.Json
