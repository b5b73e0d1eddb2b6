import MinuteBook.Value.Reading

/-!
# Form fields

A field of a form and the rules that it carries, read from a definition and written back to one.
Reading goes through the keys of a definition in a fixed order, so of several faults the first in
that order counts.
-/

namespace MinuteBook

/-- A rule on the answer to another field: that it equals a scalar, or that its list includes
a value. Null stands for a part that is not given. -/
structure Condition where
  field : Value
  equals : Value
  includes : Value
  deriving DecidableEq

/-- A rule that compares an answer with the answer to another field. -/
structure Validation where
  notEqualField : Value
  gteField : Value
  message : Value
  deriving DecidableEq

/-- How the answer to a field is computed: the name of a function, and its arguments. -/
structure Computation where
  function : Value
  args : Record
  deriving DecidableEq

/-- One slot of a form. -/
structure Field where
  id : Value
  label : Value
  type : Value
  required : Bool
  minItems : Value
  options : List Value
  placeholder : Value
  help : Value
  hidden : Bool
  visibleIf : Option Condition
  requiredIf : Option Condition
  validation : Option Validation
  computation : Option Computation
  deriving DecidableEq

/-- An entry that is left out when its value is null. -/
def Record.unlessNull (key : String) (v : Value) : Record := if v = .null then [] else [(key, v)]

/-- An entry that is left out when its value is not present. -/
def Record.ifPresent (key : String) (v : Value) : Record := if v.isPresent then [(key, v)] else []

/-- The entry of a flag, which is left out when it is not set. -/
def Record.flag (key : String) (b : Bool) : Record := if b then [(key, .bool true)] else []

theorem Record.get?_unlessNull (key : String) (v : Value) (key' : String) :
    get? (unlessNull key v) key' = if key = key' ∧ v ≠ .null then some v else none := by
  rw [unlessNull]
  by_cases null : v = .null
  · simp [null]
  · simp [null, get?_cons]

theorem Record.get?_ifPresent (key : String) (v : Value) (key' : String) :
    get? (ifPresent key v) key' = if key = key' ∧ v.isPresent then some v else none := by
  rw [ifPresent]
  by_cases present : v.isPresent = true
  · simp [present, get?_cons]
  · simp [present]

theorem Record.get?_flag (key : String) (b : Bool) (key' : String) :
    get? (flag key b) key' = if key = key' ∧ b then some (.bool true) else none := by
  cases b <;> simp [flag, get?_cons]

namespace Condition

/-- Reads a condition. What is absent is no condition. -/
def ofValue (v : Value) : Except Fault (Option Condition) :=
  if v.isPresent then do
    return some ⟨← v.require "field", ← v.get "equals", ← v.get "includes"⟩
  else .ok none

def toValue (c : Condition) : Value :=
  .mapping (Record.unlessNull "field" c.field ++ Record.unlessNull "equals" c.equals ++
    Record.unlessNull "includes" c.includes)

end Condition

namespace Validation

/-- Reads a validation. What is absent is no validation. -/
def ofValue (v : Value) : Except Fault (Option Validation) :=
  if v.isPresent then do
    return some ⟨← v.get "notEqualField", ← v.get "gteField", ← v.get "message"⟩
  else .ok none

def toValue (r : Validation) : Value :=
  .mapping (Record.unlessNull "notEqualField" r.notEqualField ++
    Record.unlessNull "gteField" r.gteField ++ Record.unlessNull "message" r.message)

end Validation

namespace Computation

/-- Reads a computation. What is absent is no computation. -/
def ofValue (v : Value) : Except Fault (Option Computation) :=
  if v.isPresent then do
    let function ← v.require "fn"
    let args ← v.get "args"
    return some ⟨function, ← (args.orElse (.mapping [])).toRecord⟩
  else .ok none

def toValue (c : Computation) : Value := .mapping [("fn", c.function), ("args", .mapping c.args)]

end Computation

namespace Field

/-- Reads a field. Only the `id` must be there; the label defaults to it. -/
def ofValue (v : Value) : Except Fault Field := do
  let id ← v.require "id"
  let label ← v.getD "label" id
  let type ← v.getD "type" (.text "text")
  let required ← v.get "required"
  let minItems ← v.get "minItems"
  let options ← v.get "options"
  let options ← (options.orElse (.tuple [])).iterate
  let placeholder ← v.get "placeholder"
  let help ← v.get "help"
  let hidden ← v.get "hidden"
  let visibleIf ← Condition.ofValue (← v.get "visibleIf")
  let requiredIf ← Condition.ofValue (← v.get "requiredIf")
  let validation ← Validation.ofValue (← v.get "validate")
  let computation ← Computation.ofValue (← v.get "compute")
  return {
    id, label, type, required := required.isPresent, minItems, options, placeholder, help,
    hidden := hidden.isPresent, visibleIf, requiredIf, validation, computation }

/-- The types that a form knows. -/
def knownTypes : List String :=
  ["text", "multiline", "date", "money", "number", "boolean", "enum", "multiselect", "entity",
    "signer", "computed"]

def hasKnownType (f : Field) : Bool := f.type.text?.any knownTypes.contains

/-- An entry for a rule, if there is one. -/
def ruleEntry (key : String) (rule : Option Value) : Record :=
  rule.toList.map fun v => (.text key, v)

theorem get?_ruleEntry (key : String) (rule : Option Value) (key' : String) :
    Record.get? (ruleEntry key rule) key' = if key = key' then rule else none := by
  cases rule <;> simp [ruleEntry, Record.get?_cons]

/-- The definition of a field. Keys that are not set are left out. -/
def toValue (f : Field) : Value :=
  .mapping (([("id", f.id), ("label", f.label), ("type", f.type)] : Record) ++
    Record.flag "required" f.required ++
    Record.unlessNull "minItems" f.minItems ++
    Record.ifPresent "options" (.list f.options) ++
    Record.ifPresent "placeholder" f.placeholder ++
    Record.ifPresent "help" f.help ++
    Record.flag "hidden" f.hidden ++
    ruleEntry "visibleIf" (f.visibleIf.map Condition.toValue) ++
    ruleEntry "requiredIf" (f.requiredIf.map Condition.toValue) ++
    ruleEntry "validate" (f.validation.map Validation.toValue) ++
    ruleEntry "compute" (f.computation.map Computation.toValue))

end Field

end MinuteBook
