import MinuteBook.Catalogue
import MinuteBook.Document
import MinuteBook.Form.Defaults
import MinuteBook.Service.Front

/-!
# The service

A service answers requests about the templates of a folder and the entities of a file, and makes
documents whose numbers are kept in a register file. When it starts, bad templates and bad entities
are refused; a register that cannot be read counts as empty. The reader of its files and the front
through which it is asked are parameters.
-/

namespace MinuteBook

/-- The places of the files of a service. -/
structure Places where
  templates : Location
  entities : Location
  register : Location
  deriving DecidableEq

/-- What the surroundings of a service decide: the day, what becomes of saving, and the words for
what goes wrong. -/
structure Surroundings where
  today : Date
  system : Numbering.System
  words : DataFile.Wording

structure Service where
  catalogue : Catalogue
  entities : Option Entities
  numbering : Numbering
  deriving DecidableEq

/-- Why a request is left without an answer. -/
inductive Stop where
  | failed (e : Failure)
  | foreign (e : Foreign)
  deriving DecidableEq

namespace Stop

def ofFault (f : Fault) : Stop := .failed (.fault f)

end Stop

namespace Service

/-! ## Starting -/

/-- Why a service does not start. -/
inductive StartError where
  | templates (e : Catalogue.Error)
  | entities (path : Location) (e : Entities.Error)
  | disk (e : Disk.Error)
  | register (f : Fault)
  deriving DecidableEq

/-- A service that has read nothing yet. -/
def blank (places : Places) : Service :=
  ⟨.empty places.templates, none, ⟨.empty, some places.register⟩⟩

/-- The entities of a file, if it is there. -/
def entitiesAt (reader : DataFile.Reader) (d : Disk) (path : Location) :
    Except StartError (Option Entities) :=
  match d.find? path with
  | .error e => .error (.disk e)
  | .ok none => .ok none
  | .ok (some _) => (Entities.ofFile reader d path).map some |>.mapError (.entities path)

/-- Reads the files again. A start that fails leaves entities and register as they were; the
templates are those that have been read. -/
def restart (reader : DataFile.Reader) (places : Places) (d : Disk) (s : Service) :
    Service × Except StartError Unit :=
  match s.catalogue.load reader d (some places.templates) with
  | (catalogue, .error e) => ({ s with catalogue }, .error (.templates e))
  | (catalogue, .ok ()) =>
    match entitiesAt reader d places.entities with
    | .error e => ({ s with catalogue }, .error e)
    | .ok entities =>
      match Numbering.ofFile d places.register with
      | .error f => ({ s with catalogue }, .error (.register f))
      | .ok numbering => (⟨catalogue, entities, numbering⟩, .ok ())

end Service

/-! ## Responses -/

namespace Front

variable {ρ α : Type}

/-- A response with data, if they can be sent. -/
def respond (front : Front ρ α) (r : ρ) (status : Nat) (v : Value) : Except Stop (Response α) :=
  match front.encode r v with
  | .ok body => .ok ⟨status, body⟩
  | .error e => .error (.foreign e)

def succeed (front : Front ρ α) (r : ρ) (entries : Record) : Except Stop (Response α) :=
  front.respond r 200 (.mapping (("success", .bool true) :: entries))

def fail (front : Front ρ α) (r : ρ) (status : Nat) (message : String) : Response α :=
  ⟨status, front.message r message⟩

def templateNotFound (front : Front ρ α) (r : ρ) : Response α :=
  front.fail r 404 "Template not found"

def answersExpected (front : Front ρ α) (r : ρ) : Response α :=
  front.fail r 400 "Expected a JSON object of field values"

/-- The response to an attempt at a document. -/
def report (front : Front ρ α) (r : ρ) (words : DataFile.Wording) :
    Except Failure Outcome → Except Stop (Response α)
  | .ok (.produced d) => front.respond r 200 (Outcome.produced d).toValue
  | .ok (.rejected errors) => front.respond r 422 (Outcome.rejected errors).toValue
  | .error (.notSaved e) => .ok (front.fail r 500 (e.message words))
  | .error e => .error (.failed e)

end Front

namespace Service

variable {ρ α : Type}

/-! ## Answering -/

/-- What a list of templates tells of each. -/
def summary (t : Template) : Value :=
  .mapping [("id", t.id), ("name", t.name), ("version", .int t.version), ("typeTag", t.typeTag)]

def listTemplates (front : Front ρ α) (s : Service) (r : ρ) : Except Stop (Response α) := do
  let templates ← s.catalogue.sorted.mapError .ofFault
  front.succeed r [("templates", .list (templates.map summary))]

def listEntities (front : Front ρ α) (s : Service) (r : ρ) : Except Stop (Response α) := do
  let entities ← ((s.entities.map Entities.sorted).getD (.ok [])).mapError .ofFault
  front.succeed r [("entities", .list (entities.map Entity.toValue))]

def showTemplate (front : Front ρ α) (s : Service) (id : String) (r : ρ) :
    Except Stop (Response α) :=
  match s.catalogue.find? (.text id) with
  | some t => front.succeed r [("template", t.toValue)]
  | none => .ok (front.templateNotFound r)

/-- The answers that a form starts with. Answers that are not given count as none. -/
def giveDefaults (front : Front ρ α) (s : Service) (today : Date) (id : String) (r : ρ) :
    Except Stop (Response α) :=
  let primed (t : Template) (given : Record) : Except Stop (Response α) := do
    let values ← (t.prime today given).mapError .ofFault
    front.succeed r [("values", .mapping values)]
  match s.catalogue.find? (.text id) with
  | none => .ok (front.templateNotFound r)
  | some t =>
    match front.data r with
    | .error e => .error (.foreign e)
    | .ok .null => primed t []
    | .ok (.mapping given) => primed t given
    | .ok _ => .ok (front.answersExpected r)

def generate (front : Front ρ α) (s : Service) (around : Surroundings) (d : Disk) (id : String)
    (r : ρ) : Service × Disk × Except Stop (Response α) :=
  match s.catalogue.find? (.text id) with
  | none => (s, d, .ok (front.templateNotFound r))
  | some t =>
    match front.data r with
    | .error e => (s, d, .error (.foreign e))
    | .ok (.mapping answers) =>
      let (desk, result) :=
        Desk.produce around.system ⟨s.numbering, d⟩ s.entities around.today t answers
      ({ s with numbering := desk.numbering }, desk.disk, front.report r around.words result)
    | .ok _ => (s, d, .ok (front.answersExpected r))

/-- Answers a request that has come to a route. -/
def answerAt (front : Front ρ α) (s : Service) (around : Surroundings) (d : Disk) (r : ρ) :
    Route → Service × Disk × Except Stop (Response α)
  | .templates => (s, d, s.listTemplates front r)
  | .template id => (s, d, s.showTemplate front id r)
  | .defaults id => (s, d, s.giveDefaults front around.today id r)
  | .generate id => s.generate front around d id r
  | .entities => (s, d, s.listEntities front r)

/-- Answers a request. -/
def answer (front : Front ρ α) (s : Service) (around : Surroundings) (d : Disk) (r : ρ) :
    Service × Disk × Except Stop (Response α) :=
  match front.destination r with
  | .route route => s.answerAt front around d r route
  | .elsewhere answer => (s, d, answer.mapError .foreign)

end Service

end MinuteBook
