import MinuteBook.Form.Template
import MinuteBook.Store

/-!
# Rules of a form

Whether a field is shown, whether it needs an answer, and what is wrong with the answer. A field
that is not shown is never at fault. Paths in rules must be text; a rule with another path is a
fault of the template. That a form has been found not to be in order is noted.
-/

namespace MinuteBook

/-- Says whether a condition holds. An absent answer fulfils no condition. -/
def Condition.holds (c : Condition) (s : Store) : Except Fault Bool := do
  match ← s.lookupAt c.field with
  | none => return false
  | some v =>
    if c.includes ≠ .null then
      match v with
      | .list items => return c.includes.agreesWithAny items
      | _ => return false
    else if c.equals = .null then return false
    else return v.scalarsEqual c.equals

namespace Field

/-- Hidden fields are never shown; others are if their condition holds. -/
def isVisible (f : Field) (s : Store) : Except Fault Bool :=
  if f.hidden then .ok false
  else match f.visibleIf with
    | none => .ok true
    | some c => c.holds s

def isRequired (f : Field) (s : Store) : Except Fault Bool :=
  if f.required then .ok true
  else match f.requiredIf with
    | none => .ok false
    | some c => c.holds s

/-- The answer at a path of a rule, null if there is none. -/
def answer (s : Store) (path : Value) : Except Fault Value := do
  return (← s.lookupAt path).getD .null

/-- The message of a rule; if the rule gives none, one that names the field and the other field. -/
def ruleMessage (f : Field) (r : Validation) (relation : String) (other : Value) :
    Except Fault Value := do
  if r.message.isPresent then return r.message
  else return .text ((← f.label.display) ++ relation ++ (← other.display))

/-- What is wrong with an answer that must differ from another. -/
def differenceErrors (f : Field) (r : Validation) (v : Value) (s : Store) :
    Except Fault (List Value) :=
  if r.notEqualField.isPresent then do
    if v.sameAnswer (← answer s r.notEqualField) then
      return [← f.ruleMessage r " must differ from " r.notEqualField]
    else return []
  else .ok []

/-- Says whether both texts are dates and the first is not earlier. -/
def isOnOrAfter (a b : Value) : Bool :=
  match a.calendarDate?, b.calendarDate? with
  | some d, some e => !d.before e
  | _, _ => false

/-- A text that is not blank. -/
def isFilledText (v : Value) : Bool := v.text?.isSome && !v.isBlank

/-- What is wrong with a date that must be on or after another. Only texts that are not blank are
compared. -/
def orderErrors (f : Field) (r : Validation) (v : Value) (s : Store) : Except Fault (List Value) :=
  if r.gteField.isPresent then do
    let other ← answer s r.gteField
    if isFilledText v && isFilledText other && !isOnOrAfter v other then
      return [← f.ruleMessage r " must be on/after " r.gteField]
    else return []
  else .ok []

/-- What is wrong with an answer by the rules that compare it with others. -/
def ruleErrors (f : Field) (v : Value) (s : Store) : Except Fault (List Value) :=
  match f.validation with
  | none => .ok []
  | some r => do return (← differenceErrors f r v s) ++ (← orderErrors f r v s)

/-- What is wrong with a missing answer. -/
def missingErrors (f : Field) (v : Value) (s : Store) : Except Fault (List Value) := do
  if (← f.isRequired s) && v.isBlank then
    return [.text ((← f.label.display) ++ " is required.")]
  else return []

/-- The messages about the answer to a field. -/
def errors (f : Field) (s : Store) : Except Fault (List Value) := do
  if ← f.isVisible s then
    let v ← answer s f.id
    return (← missingErrors f v s) ++ (← ruleErrors f v s)
  else return []

end Field

namespace Template

/-- The messages about the answers to a form, field by field. -/
def messages (t : Template) (s : Store) : Except Fault (List Value) := do
  return (← t.fields.mapM fun f => f.errors s).flatten

/-- The note about a form with a number of errors. -/
def errorsNote (t : Template) (count : Nat) : Except Fault String :=
  t.note "Template " (" failed validation with " ++ Text.int count ++ " error(s)")

/-- Messages about a form, which are noted if there are any. -/
def noteErrors (t : Template) : List Value → Except Fault (List Value)
  | [] => .ok []
  | errors => do
    let _ ← t.errorsNote errors.length
    return errors

/-- What is wrong with the answers to a form. If anything is, that is noted. -/
def errors (t : Template) (s : Store) : Except Fault (List Value) := do
  t.noteErrors (← t.messages s)

end Template

end MinuteBook
