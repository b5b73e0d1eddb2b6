import MinuteBook.Json.Writer
import MinuteBook.Keyed
import MinuteBook.Value.Display
import MinuteBook.Value.Reading

/-!
# The register of numbers

Documents are numbered by entity and calendar year. The register holds for each such series the
last number given out; a series that is not in it has given out none. Series stay in the order in
which they came in; only the written form is sorted. A register with a number that is too long to be
written has no written form.
-/

namespace MinuteBook

/-- The documents of one entity in one calendar year. -/
structure Series where
  entity : String
  year : Int
  deriving DecidableEq, Inhabited

namespace Series

/-- By entity, then by year. -/
def le (a b : Series) : Bool :=
  Text.before a.entity.toList b.entity.toList || (a.entity == b.entity && a.year ≤ b.year)

/-- The form in which a message shows a series. -/
def shown (s : Series) : Except Fault String := do
  return "(" ++ Text.quoted s.entity ++ ", " ++ (← Value.wholeText s.year) ++ ")"

end Series

structure Register where
  counters : List (Series × Int)
  deriving DecidableEq, Inhabited

namespace Register

def empty : Register := ⟨[]⟩

def get? (r : Register) (s : Series) : Option Int := r.counters.lookup s

/-- The last number given out, zero if there is none. -/
def last (r : Register) (s : Series) : Int := (r.get? s).getD 0

/-- Writes a counter: in the place of the old one, or at the end. -/
def put (r : Register) (s : Series) (n : Int) : Register := ⟨Keyed.put r.counters s n⟩

/-- Removes a counter. -/
def erase (r : Register) (s : Series) : Register := ⟨r.counters.filter fun c => c.1 != s⟩

/-- Gives out the next number of a series. -/
def bump (r : Register) (s : Series) : Register := r.put s (r.last s + 1)

/-- Puts back the number that a series had before. -/
def restore (r : Register) (s : Series) (n : Int) : Register :=
  if n = 0 then r.erase s else r.put s n

def size (r : Register) : Nat := r.counters.length

/-- The series in the order in which they came in. -/
def series (r : Register) : List Series := r.counters.map Prod.fst

/-- The counters sorted by series. -/
def rows (r : Register) : List (Series × Int) := r.counters.mergeSort fun a b => a.1.le b.1

/-- Says whether two registers hold the same counters, in whatever order. -/
def agrees (r q : Register) : Bool :=
  r.size == q.size && r.counters.all fun c => q.get? c.1 == some c.2

/-- The form in which a message shows a register. -/
def shown (r : Register) : Except Fault String := do
  let counters ← r.counters.mapM fun c => do
    return (← c.1.shown) ++ ": " ++ (← Value.wholeText c.2)
  return "ResolutionRegister(\x7b" ++ Value.commaSeparated counters ++ "\x7d)"

/-! ## The written form -/

/-- A counter as a value. -/
def rowValue (c : Series × Int) : Value :=
  .mapping [("entityId", .text c.1.entity), ("year", .int c.1.year), ("value", .int c.2)]

def toValue (r : Register) : Value := .mapping [("counters", .list (r.rows.map rowValue))]

/-- A counter as it stands in the file. -/
def rowText (c : Series × Int) : Except Fault (List Char) := do
  return "    \x7b\n      \"entityId\": ".toList ++ Json.quote .ascii c.1.entity ++
    ",\n      \"value\": ".toList ++ (← Value.wholeText c.2).toList ++
    ",\n      \"year\": ".toList ++ (← Value.wholeText c.1.year).toList ++ "\n    \x7d".toList

/-- The counters as they stand in the file, with a comma and a line break between them. -/
def rowsText : List (Series × Int) → Except Fault (List Char)
  | [] => .ok []
  | [c] => rowText c
  | c :: cs => do return (← rowText c) ++ ',' :: '\n' :: (← rowsText cs)

/-- The text of the file of a register. -/
def text (r : Register) : Except Fault String := do
  match r.rows with
  | [] => return "\x7b\n  \"counters\": []\n\x7d"
  | rows =>
    return String.ofList ("\x7b\n  \"counters\": [\n".toList ++ (← rowsText rows) ++
      "\n  ]\n\x7d".toList)

/-! ## Reading -/

/-- Why a value is no register. -/
inductive Error where
  | noCounters
  /-- An entry, given as a message shows it, is no counter. -/
  | badEntry (shown : String) (f : Fault)
  /-- The counter of a series, given as a message shows it, is negative. -/
  | negative (shown : String)
  /-- A number is infinite, or what is wrong cannot be shown. -/
  | fault (f : Fault)
  deriving DecidableEq

/-- The message about what is no register, given the words for faults. -/
def Error.message (words : Fault → String) : Error → String
  | .noCounters => "Register file has no 'counters' list"
  | .badEntry shown f => "Bad register entry " ++ shown ++ ": " ++ f.cause words
  | .negative shown => "Negative counter for " ++ shown
  | .fault f => f.cause words

/-- The counter of an entry. -/
def entryOf (v : Value) : Except Fault (Series × Int) := do
  let entity ← (← v.require "entityId").display
  let year ← (← v.require "year").toInt
  let last ← (← v.require "value").toInt
  return (⟨entity, year⟩, last)

/-- The counter of an entry, which must not be negative. -/
def counterOf (v : Value) : Except Error (Series × Int) :=
  match entryOf v with
  | .error .infinite => .error (.fault .infinite)
  | .error f => do throw (.badEntry (← v.shown.mapError .fault) f)
  | .ok (s, n) =>
    if n < 0 then do throw (.negative (← s.shown.mapError .fault))
    else .ok (s, n)

/-- Writes a counter unless the register holds a larger one for the series. -/
def raise (r : Register) (c : Series × Int) : Register := r.put c.1 (max c.2 (r.last c.1))

/-- Reads a register. Of several counters of a series the largest counts. -/
def ofValue (v : Value) : Except Error Register :=
  match v.record?.bind fun es => Record.get? es "counters" with
  | some (.list entries) => do return (← entries.mapM counterOf).foldl raise empty
  | _ => .error .noCounters

@[simp] theorem get?_empty (s : Series) : empty.get? s = none := rfl

theorem get?_put (r : Register) (s t : Series) (n : Int) :
    (r.put s n).get? t = if t = s then some n else r.get? t :=
  Keyed.lookup_put r.counters s t n

end Register

end MinuteBook
