import MinuteBook.Text.Surrogate
import MinuteBook.Value.Equality

/-!
# Order of values

Numbers, texts, bytes, dates, sequences and sets have an order among themselves; other pairs have
none, and they cannot be sorted together. NaN is neither before nor after any number, and a set is
before those alone that hold all of its items and more; so sorting has to say with which comparisons
it goes about: a rising or falling run at the front is kept or turned round, and each item behind it
is put where a search by halves leads. Among keys with a proper order this keeps the order of items
with equal keys.
-/

namespace MinuteBook.Value

/-- The first bytes that differ decide; a sequence comes after its own beginning. -/
def bytesBefore : List UInt8 → List UInt8 → Bool
  | [], b => !b.isEmpty
  | _ :: _, [] => false
  | x :: a, y :: b => if x = y then bytesBefore a b else x < y

mutual

/-- Strictly before, where the two values have an order. -/
def before? : Value → Value → Option Bool
  | .text s, w => match w with
    | .text t => some (Text.before s.toList t.toList)
    | _ => none
  | .bytes b, w => match w with
    | .bytes b' => some (bytesBefore b b')
    | _ => none
  | .date d, w => match w with
    | .date d' => some (d.before d')
    | _ => none
  | .dateTime t, w => match w with
    | .dateTime t' => some (t.before t')
    | _ => none
  | .zoned t z, w => match w with
    | .zoned t' z' => some (t.moment z < t'.moment z')
    | _ => none
  | .list vs, w => match w with
    | .list ws => beforeAll? vs ws
    | _ => none
  | .tuple vs, w => match w with
    | .tuple ws => beforeAll? vs ws
    | _ => none
  | .set vs, w => match w with
    | .set ws => some (vs.length < ws.length && agreesItems vs ws)
    | _ => none
  | .null, _ => none
  | .mapping _, _ => none
  | .bool b, w => do return (Number.int b.toNat).below (← w.number?)
  | .int n, w => do return (Number.int n).below (← w.number?)
  | .double x, w => do return (Number.double x).below (← w.number?)

/-- The first items that do not agree decide; a sequence comes after its own beginning. -/
def beforeAll? : List Value → List Value → Option Bool
  | [], ws => some !ws.isEmpty
  | v :: vs, ws => match ws with
    | [] => some false
    | w :: ws => if v.agrees w then beforeAll? vs ws else before? v w

end

variable {α : Type}

/-- The rest of a run at the front of a list, after `last`, and what follows it. A falling run goes
on as long as each item is before the last one, a rising one as long as it is not. -/
def run? (key : α → Value) (falling : Bool) (last : α) : List α → Option (List α × List α)
  | [] => some ([], [])
  | x :: xs => do
    if (← before? (key x) (key last)) = falling then
      let (run, rest) ← run? key falling x xs
      return (x :: run, rest)
    else return ([], x :: xs)

/-- The place from `low` to `high` at which an item goes into a sorted list: before the middle if
the item is before the one there, else behind it. -/
def slot? (key : α → Value) (x : α) (sorted : Array α) (low high : Nat) : Option Nat :=
  if low < high then
    match sorted[low + (high - low) / 2]? with
    | none => none
    | some y => do
      if ← before? (key x) (key y) then slot? key x sorted low (low + (high - low) / 2)
      else slot? key x sorted (low + (high - low) / 2 + 1) high
  else some low
termination_by high - low

/-- Puts an item into a sorted list. -/
def insertBy? (key : α → Value) (sorted : List α) (x : α) : Option (List α) := do
  return sorted.insertIdx (← slot? key x sorted.toArray 0 sorted.length) x

/-- Sorts by a key; fails when two keys that are compared have no order. -/
def sortBy? (key : α → Value) : List α → Option (List α)
  | x :: y :: rest => do
    let falling ← before? (key y) (key x)
    let (run, rest) ← run? key falling y rest
    let run := x :: y :: run
    rest.foldlM (insertBy? key) (if falling then run.reverse else run)
  | short => some short

end MinuteBook.Value
