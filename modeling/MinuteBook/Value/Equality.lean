import MinuteBook.Value.Basic

/-!
# Equality of values

Data are compared by what they stand for: a truth value counts as the number 0 or 1, whole numbers
and doubles compare exactly, times of day in zones compare as moments, and the order of a mapping's
entries and of a set's items does not matter. `agrees` is the test by which keys and items are found
again, so NaN agrees with itself; `equals` is the comparison of two values, where it does not.
`scalarsEqual` is the stricter comparison of form rules, where values of different sorts are never
equal.
-/

namespace MinuteBook

/-- A number of either sort. -/
inductive Number where
  | int (n : Int)
  | double (x : Double)
  deriving DecidableEq

namespace Number

def equals : Number → Number → Bool
  | .int m, .int n => m == n
  | .double x, .double y => x.equals y
  | .int n, .double x => x.equalsInt n
  | .double x, .int n => x.equalsInt n

/-- Strictly below. -/
def below : Number → Number → Bool
  | .int m, .int n => m < n
  | .double x, .double y => x.below y
  | .int n, .double x => x.aboveInt n
  | .double x, .int n => x.belowInt n

end Number

namespace Value

/-- The number of a value, a truth value counting as 0 or 1. -/
def number? : Value → Option Number
  | .bool b => some (.int b.toNat)
  | .int n => some (.int n)
  | .double x => some (.double x)
  | _ => none

/-- A number that is not a truth value. -/
def isNumber : Value → Bool
  | .int _ => true
  | .double _ => true
  | _ => false

/-- Equality as numbers. -/
def numbersEqual (v w : Value) : Bool :=
  match v.number?, w.number? with
  | some a, some b => a.equals b
  | _, _ => false

mutual

/-- Says whether a value is found again in another. -/
def agrees : Value → Value → Bool
  | .null, w => w == .null
  | .text s, w => w.text? == some s
  | .bytes b, w => match w with
    | .bytes b' => b == b'
    | _ => false
  | .date d, w => match w with
    | .date d' => d == d'
    | _ => false
  | .dateTime t, w => match w with
    | .dateTime t' => t == t'
    | _ => false
  | .zoned t z, w => match w with
    | .zoned t' z' => t.moment z == t'.moment z'
    | _ => false
  | .list vs, w => match w with
    | .list ws => agreesAll vs ws
    | _ => false
  | .tuple vs, w => match w with
    | .tuple ws => agreesAll vs ws
    | _ => false
  | .set vs, w => match w with
    | .set ws => vs.length == ws.length && agreesItems vs ws
    | _ => false
  | .mapping es, w => match w with
    | .mapping es' => es.length == es'.length && agreesEntries es es'
    | _ => false
  | .bool b, w => numbersEqual (.bool b) w
  | .int n, w => numbersEqual (.int n) w
  | .double x, w => match w with
    | .double y => x.agrees y
    | _ => numbersEqual (.double x) w
termination_by structural v => v

def agreesAll : List Value → List Value → Bool
  | [], ws => ws.isEmpty
  | v :: vs, ws => match ws with
    | w :: ws => agrees v w && agreesAll vs ws
    | [] => false
termination_by structural vs => vs

/-- Says whether each of the values is found among the items. -/
def agreesItems : List Value → List Value → Bool
  | [], _ => true
  | v :: vs, ws => (ws.any fun w => agrees v w) && agreesItems vs ws
termination_by structural vs => vs

def agreesEntries : Record → Record → Bool
  | [], _ => true
  | (k, v) :: es, es' => (es'.any fun e => agrees k e.1 && agrees v e.2) && agreesEntries es es'
termination_by structural es => es

end

theorem agrees_text_iff {v : Value} {s : String} : v.agrees (.text s) = true ↔ v = .text s := by
  cases v <;> simp [agrees, numbersEqual, number?, text?]
  exact eq_comm

/-- Equality of two values. -/
def equals (v w : Value) : Bool :=
  match v, w with
  | .double x, .double y => x.equals y
  | v, w => v.agrees w

/-- Says whether a value is found among the items. -/
def agreesWithAny (v : Value) (items : List Value) : Bool := items.any fun w => w.agrees v

/-- Equality of a rule: text with text, truth value with truth value, number with number. -/
def scalarsEqual (a b : Value) : Bool :=
  match a, b with
  | .bool x, .bool y => x == y
  | .text s, .text t => s == t
  | _, _ => a.isNumber && b.isNumber && numbersEqual a b

end Value

end MinuteBook
