import MinuteBook.DataFile
import MinuteBook.Keyed
import MinuteBook.Value.Display
import MinuteBook.Value.Order
import MinuteBook.Value.Reading

/-!
# Legal entities

The entities that a document can name, each under a short id. In an answer an entity may be given
by its id alone; `Entity.toValue` is what the id stands for.
-/

namespace MinuteBook

structure Entity where
  id : String
  legalName : Value
  shortName : Value
  jurisdiction : Value
  ein : Value
  effectiveDate : Value
  status : Value
  address : Value
  email : Value
  deriving DecidableEq

namespace Entity

/-- Reads an entity, which must have an id and a legal name. -/
def ofValue (v : Value) : Except Fault Entity := do
  return {
    id := ← (← v.require "id").display
    legalName := ← v.require "legalName"
    shortName := ← v.get "shortName"
    jurisdiction := ← v.get "jurisdiction"
    ein := ← v.get "ein"
    effectiveDate := ← v.get "effectiveDate"
    status := ← v.get "status"
    address := ← v.get "address"
    email := ← v.get "email" }

/-- The answer that an entity stands for. What is not known is empty text. -/
def toValue (e : Entity) : Value :=
  .mapping [("id", .text e.id), ("legalName", e.legalName),
    ("shortName", e.shortName.orElse (.text "")),
    ("jurisdiction", e.jurisdiction.orElse (.text "")),
    ("ein", e.ein.orElse (.text "")),
    ("effectiveDate", e.effectiveDate.orElse (.text "")),
    ("status", e.status.orElse (.text "")),
    ("address", e.address.orElse (.text "")),
    ("email", e.email.orElse (.text ""))]

end Entity

/-- A list of entities by id. -/
structure Entities where
  version : Int
  updatedAt : String
  byId : List (String × Entity)
  deriving DecidableEq

namespace Entities

def empty : Entities := ⟨1, "", []⟩

/-- Reads a list of entities. Of entities with the same id the last one counts. -/
def ofValue (v : Value) : Except Fault Entities := do
  let members ← (← (← v.getD "entities" (.list [])).iterate).mapM Entity.ofValue
  let version ← (← v.getD "version" (.int 1)).toInt
  let updatedAt ← (← v.getD "updatedAt" (.text "")).display
  return ⟨version, updatedAt, Keyed.ofPairs (members.map fun e => (e.id, e))⟩

/-- The entity with an id. -/
def find? (es : Entities) (id : String) : Option Entity := es.byId.lookup id

/-- The entity whose id is a value. -/
def get (es : Entities) (id : Value) : Except Fault (Option Entity) :=
  if id.isHashable then .ok (id.text?.bind es.find?) else .error .notHashable

def size (es : Entities) : Nat := es.byId.length

/-- The entities sorted by legal name. -/
def sorted (es : Entities) : Except Fault (List Entity) :=
  match Value.sortBy? Entity.legalName (es.byId.map Prod.snd) with
  | some sorted => .ok sorted
  | none => .error .incomparable

/-! ## The file -/

/-- Why a file gives no entities. -/
inductive Error where
  | file (e : DataFile.Error)
  | fault (f : Fault)
  deriving DecidableEq

namespace Error

/-- Errors that the reader of the file does not look out for. -/
def isUnforeseen : Error → Bool
  | .fault f => f.kind = .member || f.kind = .overflow
  | .file (.refused (.failed e)) => e.family = .other
  | .file _ => false

def cause (words : DataFile.Wording) : Error → String
  | .file (.disk e) => words.disk e
  | .file .notText => words.notText
  | .file (.refused (.malformed text)) => text
  | .file (.refused (.failed e)) => e.text
  | .fault f => f.cause words.fault

def message (words : DataFile.Wording) (place : Location) (e : Error) : String :=
  "Could not load entity directory " ++ place.text ++ ": " ++ e.cause words

end Error

/-- Reads the entities in a file. A file without data is an empty list. -/
def ofFile (reader : DataFile.Reader) (d : Disk) (place : Location) : Except Error Entities :=
  match DataFile.read reader d place with
  | .error e => .error (.file e)
  | .ok v => (ofValue (v.orElse (.mapping []))).mapError .fault

end Entities

end MinuteBook
