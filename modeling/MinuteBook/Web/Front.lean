import MinuteBook.Service.Front
import MinuteBook.Web.Target
import MinuteBook.Web.Wire

/-!
# A front for the web

The front of a service that is asked by method and address. It is one front among others: what is
proved of services does not depend on it. A path with doubled slashes is sent to the path without
them, if there is something to be found under it.
-/

namespace MinuteBook.Web

inductive Method where
  | get
  | head
  | options
  | post
  | other
  deriving DecidableEq

/-- The method of a name, in whatever case. -/
def Method.ofText (name : String) : Method :=
  match name.toUpper with
  | "GET" => .get
  | "HEAD" => .head
  | "OPTIONS" => .options
  | "POST" => .post
  | _ => .other

structure Request where
  method : Method
  target : String
  /-- The content type and the bytes of the body, if there is one. -/
  body : Option (String × List UInt8)
  deriving DecidableEq

/-- The data of a response. Pages for people carry none. -/
abbrev Body := Option Value

/-! ## What there is to be found -/

inductive Resource where
  | route (r : Route)
  /-- A fixed file, of which there are none. -/
  | asset
  deriving DecidableEq

namespace Resource

/-- A fixed file. Its path is not empty, does not begin with a slash, and has no line break behind
its first character. -/
def assetAt (names : List String) : Option Resource :=
  match (String.intercalate "/" names).toList with
  | [] => none
  | c :: rest => if c = '/' || rest.contains '\n' then none else some .asset

/-- A route that names something, which must not be empty. -/
def naming (route : String → Route) (name : String) : Option Resource :=
  if name = "" then none else some (.route (route name))

/-- What the names of a path lead to. -/
def ofNames : List String → Option Resource
  | ["documents", "templates"] => some (.route .templates)
  | ["documents", "templates", id] => naming .template id
  | ["documents", "templates", id, "defaults"] => naming .defaults id
  | ["documents", "templates", id, "generate"] => naming .generate id
  | ["documents", "entities"] => some (.route .entities)
  | "static" :: rest => assetAt rest
  | _ => none

/-- Routes that take answers. The others, like fixed files, are only read. -/
def takesAnswers : Resource → Bool
  | .route (.defaults _) | .route (.generate _) => true
  | _ => false

def allows (x : Resource) : Method → Bool
  | .get | .head => !x.takesAnswers
  | .post => x.takesAnswers
  | .options => true
  | .other => false

end Resource

/-! ## Where requests lead -/

/-- A page for people. -/
def page (status : Nat) : Destination Body := .elsewhere (.ok ⟨status, none⟩)

/-- What is answered at a resource. Who asks for the options is answered without the service. -/
def atResource (method : Method) (x : Resource) : Destination Body :=
  if method = .options then page 200
  else match x with
    | .route r => .route r
    | .asset => page 404

/-- The destination of a path. -/
def destinationOf (method : Method) (path : List Char) : Destination Body :=
  match Resource.ofNames (Target.names path) with
  | some x => if x.allows method then atResource method x else page 405
  | none => match Resource.ofNames (Target.names (Target.mergeSlashes path)) with
    | some x => if x.allows method then page 308 else page 405
    | none => page 404

/-- The path of a request. A content type has no line breaks. -/
def pathOf (r : Request) : Except Fault (List Char) := do
  let path ← Target.path r.target
  if r.body.any fun body => body.1.toList.any fun c => c == '\r' || c == '\n' then
    throw .badAddress
  return path

/-- A fault as the front tells it. -/
def foreign (f : Fault) : Foreign := ⟨.other, f.kind.name, f.kind.name, f.kind.name⟩

/-- What is sent of data: nothing, if the request is for the head. -/
def sent (r : Request) (v : Value) : Body := if r.method = .head then none else some v

def front : Front Request Body where
  destination r :=
    match pathOf r with
    | .ok path => destinationOf r.method path
    | .error f => .elsewhere (.error (foreign f))
  data r := .ok ((r.body.bind fun body => Wire.read body.1 body.2).getD .null)
  encode r v := (Wire.encode v).map (sent r) |>.mapError foreign
  message r text := sent r (.mapping [("error", .text text), ("success", .bool false)])

end MinuteBook.Web
