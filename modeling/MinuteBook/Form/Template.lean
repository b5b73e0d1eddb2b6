import MinuteBook.Form.Field
import MinuteBook.Value.Display
import MinuteBook.Value.Order

/-!
# Templates

A template describes one kind of document: its form, the pattern of its file name, and the texts of
its title and body. A definition is accepted only if no two fields have the same id. Fields of types
that no form knows are accepted with a note. Notes name the template, and it must be possible to
write them.
-/

namespace MinuteBook

structure Template where
  id : Value
  name : Value
  version : Int
  typeTag : Value
  fileNamePattern : Value
  fields : List Field
  title : Value
  body : Value
  deriving DecidableEq

namespace Template

/-- Why a definition is no template. -/
inductive Error where
  | fault (f : Fault)
  /-- Several fields have the same id; the ids are given as a message shows them. -/
  | duplicateIds (shown : String)
  deriving DecidableEq

def duplicateMessage (shown : String) : String := "Duplicate field ids: " ++ shown

/-- The pattern of the file name when a definition gives none. -/
def defaultPattern : Value := .text "\x7b\x7bresolutionId\x7d\x7d"

/-- Reads a definition without a look at the ids of the fields. -/
def ofValue (v : Value) : Except Fault Template := do
  let document ← v.require "document"
  let id ← v.require "id"
  let name ← v.require "name"
  let version ← (← v.getD "version" (.int 1)).toInt
  let typeTag ← v.require "typeTag"
  let fileNamePattern ← v.getD "fileNamePattern" defaultPattern
  let fields ← (← (← v.getD "fields" (.list [])).iterate).mapM Field.ofValue
  let title ← document.getD "title" (.text "")
  let body ← document.getD "bodyMd" (.text "")
  return { id, name, version, typeTag, fileNamePattern, fields, title, body }

/-- How many of the values agree with the given one. -/
def countOf (v : Value) (vs : List Value) : Nat := vs.countP fun w => w.agrees v

/-- The values without those that agree with an earlier one. -/
def distinct (vs : List Value) : List Value :=
  vs.foldl (fun kept v => if v.agreesWithAny kept then kept else kept ++ [v]) []

/-- The ids that occur more than once, each given once. -/
def repeatedIds (ids : List Value) : List Value :=
  distinct (ids.filter fun id => 1 < countOf id ids)

/-- The ids of the fields of a definition. -/
def fieldIdsOf (v : Value) : Except Fault (List Value) := do
  (← (← v.getD "fields" (.list [])).iterate).mapM fun f => f.get "id"

/-- Repeated ids, sorted, as a message shows them. -/
def showIds (ids : List Value) : Except Fault String :=
  match Value.sortBy? (fun id => id) ids with
  | some sorted => (Value.list sorted).shown
  | none => .error .incomparable

/-- Checks that ids are keys of which no two agree. -/
def checkIds (ids : List Value) : Except Error Unit :=
  if ids.all Value.isHashable then
    match repeatedIds ids with
    | [] => .ok ()
    | repeated => do throw (.duplicateIds (← (showIds repeated).mapError .fault))
  else .error (.fault .notHashable)

/-- A note that names the template, with what stands before and behind its id. -/
def note (t : Template) (before after : String) : Except Fault String := do
  return before ++ (← t.id.display) ++ after

/-- The note about a field of a type that no form knows. -/
def noteOn (t : Template) (f : Field) : Except Fault String := do
  return "Template " ++ (← t.id.display) ++ ": unknown field type '" ++ (← f.type.display) ++
    "' on " ++ (← f.id.display)

/-- The notes that go with a template. -/
def notes (t : Template) : Except Fault (List String) :=
  (t.fields.filter fun f => !f.hasKnownType).mapM t.noteOn

/-- Reads a definition. -/
def parse (v : Value) : Except Error Template := do
  checkIds (← (fieldIdsOf v).mapError .fault)
  let t ← (ofValue v).mapError .fault
  let _ ← t.notes.mapError .fault
  return t

/-- The definition of a template. -/
def toValue (t : Template) : Value :=
  .mapping [("id", t.id), ("name", t.name), ("version", .int t.version), ("typeTag", t.typeTag),
    ("fileNamePattern", t.fileNamePattern), ("fields", .list (t.fields.map Field.toValue)),
    ("document", .mapping [("title", t.title), ("bodyMd", t.body)])]

/-- What a document of this kind finds under `$template`. -/
def metadata (t : Template) : Record := [("typeTag", t.typeTag)]

/-- The first field with an id. -/
def field? (t : Template) (id : Value) : Option Field := t.fields.find? fun f => f.id.equals id

def fieldIds (t : Template) : List Value := t.fields.map Field.id

end Template

end MinuteBook
