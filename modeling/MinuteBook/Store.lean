import MinuteBook.Path
import MinuteBook.Value.Display

/-!
# The store of answers

The answers of one editing session, read by dotted paths and written by whole top-level keys. The
first segment `$template` names the description of the template, whatever the answers hold under
that key.
-/

namespace MinuteBook

structure Store where
  values : Record
  template : Record
  deriving DecidableEq, Inhabited

namespace Store

/-- Why a path leads nowhere. -/
inductive Error where
  | emptyPath
  /-- A segment is not present. -/
  | unset (path : String)
  /-- A segment is asked of a value that is no mapping. -/
  | notMapping (segment path : String)
  deriving DecidableEq

def Error.message : Error → String
  | .emptyPath => "Empty path"
  | .unset path => "'" ++ path ++ "' is not set"
  | .notMapping segment path =>
    "Cannot read '" ++ segment ++ "' from non-mapping value in '" ++ path ++ "'"

/-- The first segment of paths into the description of the template. -/
def templateKey : String := "$template"

/-- Follows segments into a value. The path is only there for the error. -/
def walk (path : String) : List String → Value → Except Error Value
  | [], v => .ok v
  | segment :: rest, v =>
    match v with
    | .mapping es => match Record.get? es segment with
      | some w => walk path rest w
      | none => .error (.unset path)
    | _ => .error (.notMapping segment path)

/-- The value at a path. Segments behind `$template` are ignored. -/
def get (s : Store) (path : String) : Except Error Value :=
  match Path.segments path with
  | [] => .error .emptyPath
  | first :: rest =>
    if first = "" then .error .emptyPath
    else if first = templateKey then .ok (.mapping s.template)
    else walk path (first :: rest) (.mapping s.values)

/-- The value at a path, if there is one. -/
def lookup (s : Store) (path : String) : Option Value := (s.get path).toOption

/-- The value at the path that a value spells, if there is one. -/
def lookupAt (s : Store) (path : Value) : Except Fault (Option Value) := do
  return s.lookup (← Path.ofValue path)

/-- Writes a top-level key. -/
def set (s : Store) (key : String) (v : Value) : Store :=
  { s with values := Record.set s.values key v }

/-- A store with further top-level keys. The name `self` is taken by the store itself. -/
def child (s : Store) (bindings : List (String × Value)) : Except Fault Store :=
  if bindings.any fun b => b.1 = "self" then .error .reservedBinding
  else .ok (bindings.foldl (fun s b => s.set b.1 b.2) s)

/-- Says whether a top-level key is present. -/
def contains (s : Store) (key : String) : Bool := (Record.get? s.values key).isSome

/-- The value under a top-level key. -/
def item (s : Store) (key : String) : Except Fault Value := (Value.mapping s.values).require key

/-- The form in which a message shows a store. -/
def shown (s : Store) : Except Fault String := do
  return "ValueStore(" ++ (← (Value.mapping s.values).shown) ++ ")"

@[simp] theorem set_template (s : Store) (key : String) (v : Value) :
    (s.set key v).template = s.template := rfl

@[simp] theorem set_values (s : Store) (key : String) (v : Value) :
    (s.set key v).values = Record.set s.values key v := rfl

@[simp] theorem walk_nil (path : String) (v : Value) : walk path [] v = .ok v := rfl

end Store

end MinuteBook
