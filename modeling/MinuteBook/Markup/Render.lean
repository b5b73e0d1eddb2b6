import MinuteBook.Filter
import MinuteBook.Markup.Node
import MinuteBook.Store
import MinuteBook.Value.Equality

/-!
# Rendering

A node tree prints a text for a store of answers. What cannot be found prints nothing, and printed
answers are never read as a template again. Inside an `#each` block the key `this` holds the item.
The only fault is that of a whole number that is too long to be written.
-/

namespace MinuteBook

/-- The value at a path, null if there is none. -/
def Store.lookupOrNull (s : Store) (path : String) : Value := (s.lookup path).getD .null

/-- The text at a path as a document prints it. -/
def Store.plain (s : Store) (path : String) : Except Fault String := (s.lookupOrNull path).plain

/-- The key under which a repeated block finds its item. -/
def Store.itemKey : String := "this"

namespace Operand

/-- A path that leads nowhere prints itself. -/
def render (s : Store) : Operand → Except Fault String
  | .literal text => .ok text
  | .path p => match s.lookup p with
    | some v => v.plain
    | none => .ok p

end Operand

namespace Expression

def render (filters : Filters) (s : Store) : Expression → Except Fault String
  | .var path filter => match s.lookup path with
    | some v => do return filters.apply filter v (← v.plain)
    | none => .ok ""
  | .ternary lhs literal yes no => do
    if (← s.plain lhs) = literal then yes.render s else no.render s

end Expression

namespace Test

/-- Says whether a test holds. Without a path it never does. -/
def holds (s : Store) (t : Test) : Except Fault Bool :=
  if t.path = "" then .ok false
  else match t with
    | .truthy path => .ok (s.lookupOrNull path).holds
    | .includes path needle => match (s.lookupOrNull path).items? with
      | some items => .ok ((Value.text needle).agreesWithAny items)
      | none => .ok false
    | .equals path literal => do return (← s.plain path) == literal

end Test

namespace Markup

/-- The items that a repeated block goes through. -/
def itemsAt (s : Store) (path : String) : List Value :=
  if path = "" then [] else ((s.lookupOrNull path).items?).getD []

mutual

/-- The characters that a node prints. -/
def Node.render (filters : Filters) : Node → Store → Except Fault (List Char)
  | .text t, _ => .ok t.toList
  | .expression e, s => do return (← e.render filters s).toList
  | .when test children, s => do
    if ← test.holds s then renderAll filters children s else return []
  | .each path children, s => do
    let parts ← (itemsAt s path).mapM fun item =>
      renderAll filters children (s.set Store.itemKey item)
    return parts.flatten
  | .blank _, _ => .ok []

/-- The characters that nodes print one after another. -/
def renderAll (filters : Filters) : List Node → Store → Except Fault (List Char)
  | [], _ => .ok []
  | n :: ns, s => do return (← Node.render filters n s) ++ (← renderAll filters ns s)

end

@[simp] theorem renderAll_nil (filters : Filters) (s : Store) :
    renderAll filters [] s = .ok [] := by
  simp [renderAll]

theorem renderAll_cons (filters : Filters) (n : Node) (ns : List Node) (s : Store) :
    renderAll filters (n :: ns) s =
      (do return (← Node.render filters n s) ++ (← renderAll filters ns s)) := by
  simp [renderAll]

theorem renderAll_append (filters : Filters) (ms ns : List Node) (s : Store) :
    renderAll filters (ms ++ ns) s =
      (do return (← renderAll filters ms s) ++ (← renderAll filters ns s)) := by
  induction ms with
  | nil => cases h : renderAll filters ns s <;> simp [h, bind, Except.bind, pure, Except.pure]
  | cons n ms ih =>
    rw [List.cons_append, renderAll_cons, renderAll_cons, ih]
    cases Node.render filters n s <;> cases renderAll filters ms s <;>
      cases renderAll filters ns s <;> simp [bind, Except.bind, pure, Except.pure]

/-- The text that a template prints. -/
def render (filters : Filters) (template : String) (s : Store) : Except Fault String := do
  return String.ofList (← renderAll filters (parse template) s)

/-- The text that a value prints as a template. What is absent prints nothing; a template must be
text. -/
def renderValue (filters : Filters) (template : Value) (s : Store) : Except Fault String :=
  match template with
  | .text t => render filters t s
  | v => if v.isPresent then .error .notTemplateText else .ok ""

end Markup

end MinuteBook
