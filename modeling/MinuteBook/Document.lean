import MinuteBook.Entities
import MinuteBook.FileName
import MinuteBook.Form.Rules
import MinuteBook.Markup.Render
import MinuteBook.Numbering

/-!
# Documents

From a template and the answers to its form to a numbered document. The answers are first brought
into a store, where ids of entities give way to the entities. If the form is in order, the document
gets its number, and then its title, its body and its file name are printed. Answers that are not
in order use up no number, and a number that cannot be saved is taken back. What happens on the way
is noted under the id of the template, and it must be possible to write these notes.
-/

namespace MinuteBook

structure Document where
  title : String
  body : String
  fileName : String
  /-- The id of the document, if its template asks for one. -/
  number : Option String
  deriving DecidableEq

/-- What an attempt at a document gives. -/
inductive Outcome where
  /-- The answers are not in order, for the reasons given. -/
  | rejected (errors : List Value)
  | produced (document : Document)
  deriving DecidableEq

/-- Why an attempt gives nothing. -/
inductive Failure where
  | fault (f : Fault)
  /-- The number could not be saved. -/
  | notSaved (e : Numbering.SaveError)
  /-- The number could not be saved, and this could not be noted either: the fault of the note takes
  the place of the error. -/
  | unnoted (e : Numbering.SaveError) (f : Fault)
  deriving DecidableEq

namespace Failure

/-- The fault with which the attempt ends, if it ends with one. -/
def fault? : Failure → Option Fault
  | .fault f | .unnoted _ f => some f
  | .notSaved _ => none

/-- Why the number could not be saved, if that is what went wrong first. -/
def saveError? : Failure → Option Numbering.SaveError
  | .notSaved e | .unnoted e _ => some e
  | .fault _ => none

end Failure

/-- An outcome as it is told to the outside. -/
def Outcome.toValue : Outcome → Value
  | .rejected errors => .mapping [("success", .bool false), ("errors", .list errors)]
  | .produced d =>
    .mapping [("success", .bool true), ("title", .text d.title), ("body", .text d.body),
      ("fileName", .text d.fileName), ("resolutionId", (d.number.map Value.text).getD .null)]

/-! ## The store of a document -/

/-- The entity that an answer names by its id. -/
def Entities.named? (es : Entities) : Option Value → Option Entity
  | some (.text id) => if id = "" then none else es.find? id
  | _ => none

/-- Puts an entity in the place of its id, if the field is one for entities. -/
def Entities.expand (es : Entities) (s : Store) (f : Field) : Except Fault Store := do
  if f.type = .text "entity" then
    match f.id, es.named? (← s.lookupAt f.id) with
    | .text key, some e => return s.set key e.toValue
    | _, _ => return s
  else return s

/-- The store of the answers to a form. -/
def Template.store (t : Template) (entities : Option Entities) (answers : Record) :
    Except Fault Store :=
  let s : Store := ⟨answers, t.metadata⟩
  match entities with
  | none => .ok s
  | some es => t.fields.foldlM es.expand s

/-! ## The number of a document -/

/-- The field that holds the number of a document. -/
def numberKey : String := "resolutionId"

/-- The function that computes it. -/
def numberFunction : String := "generateResolutionId"

/-- The arguments of the computation of the number, if a template asks for one. -/
def Template.numberArgs? (t : Template) : Option Record :=
  match (t.field? (.text numberKey)).bind Field.computation with
  | some c => if c.function = .text numberFunction then some c.args else none
  | none => none

/-- The value at the path that an argument holds. An argument that is not given is no path. -/
def argument (args : Record) (key : String) (s : Store) : Except Fault (Option Value) :=
  s.lookupAt ((Record.get? args key).getD (.text ""))

/-- An argument as a note shows it. -/
def shownArgument (args : Record) (key : String) : Except Fault String :=
  ((Record.get? args key).getD .null).display

namespace Template

/-- The entity of a document: the text to which an argument leads. If there is none or it is empty,
it is the empty name, and that is noted. -/
def entityOf (t : Template) (args : Record) (s : Store) : Except Fault String := do
  let name := ((← argument args "entityIdPath" s).bind Value.text?).getD ""
  if name = "" then
    let _ ← t.note "" (": entity id at '" ++ (← shownArgument args "entityIdPath") ++ "' is empty")
  return name

/-- The day of a document: the date to which an argument leads. If there is none, it is today, and
that is noted. -/
def dayOf (t : Template) (today : Date) (args : Record) (s : Store) : Except Fault Date := do
  match (← argument args "datePath" s).bind Value.calendarDate? with
  | some day => return day
  | none =>
    let _ ← t.note "" (": no usable date at '" ++ (← shownArgument args "datePath") ++
      "', using " ++ today.iso)
    return today

/-- The series to which a document belongs: that of its entity and of the year of its day. -/
def seriesOf (t : Template) (today : Date) (args : Record) (s : Store) : Except Fault Series := do
  return ⟨← t.entityOf args s, (← t.dayOf today args s).year⟩

/-- How an attempt fails whose number cannot be saved: it is noted that the number is withdrawn. -/
def unsaved (t : Template) (number : String) (e : Numbering.SaveError) : Failure :=
  match t.note "" (": register not saved, " ++ number ++ " withdrawn") with
  | .ok _ => .notSaved e
  | .error f => .unnoted e f

end Template

/-- What making a document changes. -/
structure Desk where
  numbering : Numbering
  disk : Disk
  deriving DecidableEq

namespace Desk

/-- Saves the register, if it has a file. If it cannot be written there, the number of the series
goes back to the previous one; after another fault it stays. -/
def keep (sys : Numbering.System) (desk : Desk) (t : Template) (s : Series) (previous : Int)
    (number : String) : Desk × Except Failure Unit :=
  if desk.numbering.file.isNone then (desk, .ok ())
  else
    match desk.numbering.save sys none desk.disk with
    | (disk, .ok ()) => ({ desk with disk }, .ok ())
    | (disk, .error (.fault f)) => ({ desk with disk }, .error (.fault f))
    | (disk, .error e) =>
      let register := desk.numbering.register.restore s previous
      (⟨{ desk.numbering with register }, disk⟩, .error (t.unsaved number e))

/-- Gives out the next number of a series and saves the register, if it has a file. -/
def issue (sys : Numbering.System) (desk : Desk) (t : Template) (s : Series) :
    Desk × Except Failure String :=
  let previous := desk.numbering.register.last s
  match desk.numbering.issue s t.typeTag with
  | (numbering, .error f) => ({ desk with numbering }, .error (.fault f))
  | (numbering, .ok number) =>
    let (desk, result) := keep sys { desk with numbering } t s previous number
    (desk, result.map fun _ => number)

/-- Gives a document its number, if its template asks for one. -/
def number (sys : Numbering.System) (desk : Desk) (today : Date) (t : Template) (s : Store) :
    Desk × Except Failure (Option String) :=
  match t.numberArgs? with
  | none => (desk, .ok none)
  | some args =>
    match t.seriesOf today args s with
    | .error f => (desk, .error (.fault f))
    | .ok series =>
      let (desk, result) := desk.issue sys t series
      (desk, result.map some)

end Desk

/-! ## Printing -/

/-- The store with the number of the document. -/
def Store.withNumber (s : Store) : Option String → Store
  | some number => s.set numberKey (.text number)
  | none => s

/-- Prints the document of a template. -/
def Template.print (t : Template) (s : Store) (number : Option String) :
    Except Fault Document := do
  let s := s.withNumber number
  let title ← Markup.renderValue .builtin t.title s
  let body ← Markup.renderValue .builtin t.body s
  let fileName ← FileName.render t.fileNamePattern s
  return { title, body, fileName, number }

/-- Prints the document of a template, and notes that it is made. -/
def Template.finish (t : Template) (s : Store) (number : Option String) :
    Except Fault Document := do
  let document ← t.print s number
  let _ ← t.note "Generated " (" (" ++ number.getD "no resolution id" ++ ")")
  return document

/-- The store of the answers and what is wrong with them. -/
def Template.review (t : Template) (entities : Option Entities) (answers : Record) :
    Except Fault (Store × List Value) := do
  let s ← t.store entities answers
  return (s, ← t.errors s)

/-- How an attempt ends if the answers are not in order, which is noted. -/
def Template.reject (t : Template) (errors : List Value) : Except Fault Outcome := do
  let _ ← t.note "Generation of " (" blocked by " ++ Text.int errors.length ++
    " validation error(s)")
  return .rejected errors

/-- Makes the document of a template from the answers to its form. -/
def Desk.produce (sys : Numbering.System) (desk : Desk) (entities : Option Entities)
    (today : Date) (t : Template) (answers : Record) : Desk × Except Failure Outcome :=
  match t.review entities answers with
  | .error f => (desk, .error (.fault f))
  | .ok (s, []) =>
    match desk.number sys today t s with
    | (desk, .error e) => (desk, .error e)
    | (desk, .ok number) => (desk, (t.finish s number).map .produced |>.mapError .fault)
  | .ok (_, errors) => (desk, (t.reject errors).mapError .fault)

end MinuteBook
