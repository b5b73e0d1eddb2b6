import MinuteBook.DataFile
import MinuteBook.Form.Template

/-!
# The catalogue of templates

The templates of a folder by id. Loading reads every template file of the folder in the order of
names and collects what is wrong with them; the catalogue then holds the templates of the other
files. A fault that loading does not look out for ends it at once, with what has been read so far.
A template whose id cannot be written is in the catalogue, and its file counts as one with a defect.
The reader of the files is a parameter.
-/

namespace MinuteBook

structure Catalogue where
  templates : List (Value × Template)
  folder : Location
  loaded : Bool
  deriving DecidableEq

namespace Catalogue

def empty (folder : Location) : Catalogue := ⟨[], folder, false⟩

/-- What is wrong with a template file. -/
inductive Defect where
  | file (e : DataFile.Error)
  /-- The file holds nothing. -/
  | noDefinition
  | definition (e : Template.Error)
  /-- An earlier file has a template with the same id, which is given as a message shows it. -/
  | duplicateId (shown : String)
  deriving DecidableEq

namespace Defect

/-- Defects that loading does not look out for. -/
def isUnforeseen : Defect → Bool
  | .file (.disk _) => true
  | .file (.refused (.failed e)) => e.family = .system || e.family = .other
  | .definition (.fault f) => f.kind = .member || f.kind = .overflow
  | _ => false

/-- The message about a defect, given the words for what is written out in it. -/
def message (words : DataFile.Wording) : Defect → String
  | .file (.refused (.malformed text)) => text
  | .file (.refused (.failed e)) => "Malformed template - " ++ e.shown
  | .file .notText => "Malformed template - " ++ words.notText
  | .file (.disk e) => "Malformed template - " ++ words.disk e
  | .noDefinition => "Empty template definition"
  | .definition (.duplicateIds shown) => Template.duplicateMessage shown
  | .definition (.fault f) => "Malformed template - " ++ f.labelled words.fault
  | .duplicateId shown =>
    "Duplicate template id '" ++ shown ++ "' (already defined in another file)"

/-- A fault in what a definition says. -/
def ofFault (f : Fault) : Defect := .definition (.fault f)

end Defect

/-- Why a folder is not loaded. -/
inductive Error where
  /-- The defects of the files, by name. -/
  | defects (found : List (String × Defect))
  | unforeseen (d : Defect)
  deriving DecidableEq

/-- The message about defects. -/
def defectsMessage (words : DataFile.Wording) (found : List (String × Defect)) : String :=
  "Template configuration errors:\n" ++
    String.intercalate "\n" (found.map fun x => "  - " ++ x.1 ++ ": " ++ x.2.message words)

/-! ## Templates by id -/

def find? (c : Catalogue) (id : Value) : Option Template :=
  (c.templates.find? fun x => x.1.agrees id).map Prod.snd

/-- The template with an id. -/
def get (c : Catalogue) (id : Value) : Except Fault (Option Template) :=
  if id.isHashable then .ok (c.find? id) else .error .notHashable

def unknownMessage (id : Value) : Except Fault String := do
  return "Unknown template: " ++ (← id.display)

/-- Writes a template under its id: in the place of the old one, or at the end. -/
def putIn : List (Value × Template) → Template → List (Value × Template)
  | [], t => [(t.id, t)]
  | (id, u) :: r, t => if id.agrees t.id then (id, t) :: r else (id, u) :: putIn r t

/-- Adds a template that does not come from a file. -/
def register (c : Catalogue) (t : Template) : Except Fault Catalogue :=
  if t.id.isHashable then .ok { c with templates := putIn c.templates t } else .error .notHashable

def ids (c : Catalogue) : List Value := c.templates.map Prod.fst

/-- The templates sorted by name. -/
def sorted (c : Catalogue) : Except Fault (List Template) :=
  match Value.sortBy? Template.name (c.templates.map Prod.snd) with
  | some sorted => .ok sorted
  | none => .error .incomparable

/-- Forgets all templates. -/
def clear (c : Catalogue) : Catalogue := { c with templates := [], loaded := false }

/-! ## Loading -/

/-- The endings of the names of template files. -/
def endings : List String := [".yml", ".yaml", ".json"]

/-- Files that stand beside the templates and are none. -/
def otherFiles : List String := ["entities.yml", "entities.yaml", "entities.json"]

/-- Says whether a name is that of a template file. -/
def isTemplateFile (name : String) : Bool :=
  (endings.any fun e => e.toList.isSuffixOf name.toList) && !otherFiles.contains name

/-- The names of the template files of a folder in their order. -/
def filesIn (d : Disk) (folder : Location) : List String :=
  (d.names folder).filter isTemplateFile

/-- Reads a template file. -/
def readFile (reader : DataFile.Reader) (d : Disk) (path : Location) : Except Defect Template :=
  match DataFile.read reader d path with
  | .error e => .error (.file e)
  | .ok v => if v.isPresent then (Template.parse v).mapError .definition else .error .noDefinition

/-- Adds a template of a file, whose id must be a new one. -/
def add (c : Catalogue) (t : Template) : Catalogue × Option Defect :=
  match c.get t.id, t.id.display with
  | .error f, _ => (c, some (.ofFault f))
  | .ok (some _), .ok shown => (c, some (.duplicateId shown))
  | .ok (some _), .error f => (c, some (.ofFault f))
  | .ok none, .ok _ => ({ c with templates := c.templates ++ [(t.id, t)] }, none)
  | .ok none, .error f => ({ c with templates := c.templates ++ [(t.id, t)] }, some (.ofFault f))

/-- Adds the template of a file. -/
def addFile (reader : DataFile.Reader) (d : Disk) (c : Catalogue) (name : String) :
    Catalogue × Option Defect :=
  match readFile reader d (c.folder ++ [name]) with
  | .ok t => c.add t
  | .error defect => (c, some defect)

/-- Adds the templates of files, and collects the defects. -/
def addFiles (reader : DataFile.Reader) (d : Disk) : Catalogue → List String →
    Catalogue × Except Defect (List (String × Defect))
  | c, [] => (c, .ok [])
  | c, name :: names =>
    match addFile reader d c name with
    | (c, none) => addFiles reader d c names
    | (c, some defect) =>
      if defect.isUnforeseen then (c, .error defect)
      else
        let (c, found) := addFiles reader d c names
        (c, found.map ((name, defect) :: ·))

/-- Adds the templates of the folder to an empty catalogue. Only a folder that has template files
and no defects counts as loaded. -/
def fill (reader : DataFile.Reader) (d : Disk) (c : Catalogue) : Catalogue × Except Error Unit :=
  match filesIn d c.folder with
  | [] => (c, .ok ())
  | names =>
    match addFiles reader d c names with
    | (c, .ok []) => ({ c with loaded := true }, .ok ())
    | (c, .ok found) => (c, .error (.defects found))
    | (c, .error defect) => (c, .error (.unforeseen defect))

/-- Loads the templates of a folder, by default of the one that was loaded last. A folder that is
missing has no templates. -/
def load (reader : DataFile.Reader) (d : Disk) (folder : Option Location) (c : Catalogue) :
    Catalogue × Except Error Unit :=
  let c : Catalogue := { c with templates := [], folder := folder.getD c.folder }
  match d.find? c.folder with
  | .ok _ => fill reader d c
  | .error e => (c, .error (.unforeseen (.file (.disk e))))

/-- Forgets all templates and loads the folder again. -/
def reload (reader : DataFile.Reader) (d : Disk) (c : Catalogue) :
    Catalogue × Except Error Unit :=
  load reader d none c.clear

end Catalogue

end MinuteBook
