import MinuteBook.Calendar
import MinuteBook.Number.Double

/-!
# Values

What a form field, a template definition and a data file hold: scalars, dates, sequences, sets and
mappings. A mapping keeps its entries in the order of insertion, one for each key; nearly always
the keys are texts. Of a set the items come in the order in which it gives them out.
-/

namespace MinuteBook

inductive Value where
  | null
  | bool (b : Bool)
  | int (n : Int)
  | double (x : Double)
  | text (s : String)
  | bytes (b : List UInt8)
  | date (d : Date)
  | dateTime (t : DateTime)
  | zoned (t : DateTime) (z : Zone)
  | list (items : List Value)
  | tuple (items : List Value)
  | set (items : List Value)
  | mapping (entries : List (Value × Value))
  deriving Inhabited

/-- The entries of a mapping. -/
abbrev Record := List (Value × Value)

instance : Coe String Value := ⟨Value.text⟩

namespace Value

mutual

/-- Structural equality, as a test. -/
def same : Value → Value → Bool
  | .null, .null => true
  | .bool a, .bool b => a == b
  | .int a, .int b => a == b
  | .double a, .double b => a == b
  | .text a, .text b => a == b
  | .bytes a, .bytes b => a == b
  | .date a, .date b => a == b
  | .dateTime a, .dateTime b => a == b
  | .zoned a z, .zoned b z' => a == b && z == z'
  | .list a, .list b => sameAll a b
  | .tuple a, .tuple b => sameAll a b
  | .set a, .set b => sameAll a b
  | .mapping a, .mapping b => sameEntries a b
  | _, _ => false

def sameAll : List Value → List Value → Bool
  | [], [] => true
  | v :: vs, w :: ws => same v w && sameAll vs ws
  | _, _ => false

def sameEntries : Record → Record → Bool
  | [], [] => true
  | (k, v) :: es, (k', w) :: es' => same k k' && same v w && sameEntries es es'
  | _, _ => false

end

mutual

theorem same_iff (v w : Value) : same v w = true ↔ v = w := by
  cases v <;> cases w <;> simp [same, sameAll_iff, sameEntries_iff]

theorem sameAll_iff (vs ws : List Value) : sameAll vs ws = true ↔ vs = ws := by
  cases vs <;> cases ws <;> simp [sameAll, same_iff, sameAll_iff]

theorem sameEntries_iff (es es' : Record) : sameEntries es es' = true ↔ es = es' := by
  rcases es with _ | ⟨⟨k, v⟩, es⟩ <;> rcases es' with _ | ⟨⟨k', w⟩, es'⟩ <;>
    simp [sameEntries, same_iff, sameEntries_iff, and_assoc]

end

instance : DecidableEq Value := fun v w => decidable_of_iff _ (same_iff v w)

/-- The entries of a mapping. -/
def record? : Value → Option Record
  | .mapping es => some es
  | _ => none

def text? : Value → Option String
  | .text s => some s
  | _ => none

/-- The items of a list or a tuple. -/
def items? : Value → Option (List Value)
  | .list xs => some xs
  | .tuple xs => some xs
  | _ => none

def isMapping : Value → Bool
  | .mapping _ => true
  | _ => false

end Value

end MinuteBook
