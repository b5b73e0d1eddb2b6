import MinuteBook.Form.Template

/-!
# Answers that a form starts with

A new session gets today's date in every date field without an answer, and blank rows in every
list of signers that needs some. The id of a field need not be text, so answers are looked up and
written here under any value.
-/

namespace MinuteBook

/-- The answer under an id, null if there is none; the id must be one that can be a key. -/
def Record.ask (answers : Record) (id : Value) : Except Fault Value :=
  if id.isHashable then .ok ((answers.find? id).getD .null) else .error .notHashable

/-- A row for a signer who is not yet known. -/
def blankSigner : Value :=
  .mapping [("name", .text ""), ("title", .text ""), ("signatureBlock", .text "(Signature)")]

/-- A value taken as a number of rows. Below zero there are none. -/
def rowCount : Value → Except Fault Nat
  | .int n => .ok n.toNat
  | .bool b => .ok b.toNat
  | _ => .error .notCount

namespace Field

def isDate (f : Field) : Bool := f.type = .text "date"

def isSigner (f : Field) : Bool := f.type = .text "signer"

/-- Gives a field the answer that it starts with, unless it has one. -/
def prime (today : Date) (answers : Record) (f : Field) : Except Fault Record := do
  if f.isDate then
    if (← answers.ask f.id) = .null then return answers.put f.id (.text today.iso)
    else return answers
  else if f.isSigner && f.minItems.isPresent then
    if (← answers.ask f.id).isPresent then return answers
    else return answers.put f.id (.list (List.replicate (← rowCount f.minItems) blankSigner))
  else return answers

end Field

/-- The answers that a session over the given ones starts with. -/
def Template.prime (t : Template) (today : Date) (given : Record) : Except Fault Record :=
  t.fields.foldlM (Field.prime today) given

end MinuteBook
