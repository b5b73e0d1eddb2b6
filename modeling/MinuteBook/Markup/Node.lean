import MinuteBook.Expression.Basic
import MinuteBook.Markup.Segment

/-!
# Node trees

A template is read into a tree of texts, expressions and blocks. A block is opened by a tag
`#if` or `#each` and closed by the tag `/if` or `/each`. A closing tag ends the innermost open
block of its own kind; blocks opened inside it and not yet closed lose their tags and leave their
children in place, and so does every block still open at the end. A closing tag without a block to
close, and a tag that cannot be read, become a blank.
-/

namespace MinuteBook.Markup

inductive Node where
  | text (s : String)
  | expression (e : Expression)
  | when (test : Test) (children : List Node)
  | each (path : String) (children : List Node)
  /-- A tag that prints nothing. -/
  | blank (source : String)
  deriving Inhabited

/-- The two sorts of blocks. -/
inductive Kind where
  | when
  | each
  deriving DecidableEq

/-- What an opening tag says. -/
inductive Opening where
  | when (test : Test)
  | each (path : String)
  deriving DecidableEq

namespace Opening

def kind : Opening → Kind
  | .when _ => .when
  | .each _ => .each

/-- The block with the given children. -/
def node : Opening → List Node → Node
  | .when test, children => .when test children
  | .each path, children => .each path children

end Opening

/-- What a segment of a template does to the tree. -/
inductive Step where
  | leaf (node : Node)
  | opens (block : Opening)
  | closes (kind : Kind) (source : String)

/-- A block opened by `#if`. A test that cannot be read never holds. -/
def openWhen (source : String) : Opening :=
  match Test.parse source with
  | .ok test => .when test
  | .error _ => .when (.truthy "")

/-- A block opened by `#each`. It names a path by its first token; a path that cannot be read
leads nowhere. -/
def openEach (source : String) : Opening :=
  match Expression.tokens source with
  | .ok (.word path :: _) => .each path
  | _ => .each ""

/-- The expression of a tag, or a blank. -/
def leafOf (body : List Char) : Node :=
  match Expression.parse (String.ofList (Text.strip body)) with
  | .ok e => .expression e
  | .error _ => .blank (String.ofList (Segment.tag body).source)

/-- What a tag does. -/
def tagStep (body : List Char) : Step :=
  let expr := Text.strip body
  let head := expr.takeWhile fun c => !Text.isBlank c
  let rest := String.ofList (Text.dropBlanks (expr.dropWhile fun c => !Text.isBlank c))
  let source := String.ofList (Segment.tag body).source
  if head = "#if".toList then .opens (openWhen rest)
  else if head = "#each".toList then .opens (openEach rest)
  else if expr = "/if".toList then .closes .when source
  else if expr = "/each".toList then .closes .each source
  else .leaf (leafOf body)

def Segment.step : Segment → Step
  | .text s => .leaf (.text (String.ofList s))
  | .tag body => tagStep body

/-- A block that has been opened, with its children so far, the latest first. -/
structure Frame where
  block : Opening
  children : List Node

/-- A tree under construction: the children of the root so far, the latest first, and the open
blocks, the innermost first. -/
structure Builder where
  root : List Node
  frames : List Frame

namespace Builder

def empty : Builder := ⟨[], []⟩

/-- Appends nodes, given the latest first, to the innermost open block. -/
def append (nodes : List Node) : Builder → Builder
  | ⟨root, []⟩ => ⟨nodes ++ root, []⟩
  | ⟨root, f :: fs⟩ => ⟨root, { f with children := nodes ++ f.children } :: fs⟩

theorem append_nil (b : Builder) : append [] b = b := by
  obtain ⟨root, frames⟩ := b
  cases frames <;> rfl

theorem append_append (b : Builder) (ms ns : List Node) :
    append ns (append ms b) = append (ns ++ ms) b := by
  obtain ⟨root, frames⟩ := b
  cases frames with
  | nil => simp [append]
  | cons f fs => simp [append]

/-- Closes the innermost open block of a kind. `pending` holds the children left by the blocks that
have been given up, the latest first. -/
def close? (kind : Kind) (root : List Node) : List Node → List Frame → Option Builder
  | _, [] => none
  | pending, f :: fs =>
    if f.block.kind = kind then
      some (append [f.block.node (pending ++ f.children).reverse] ⟨root, fs⟩)
    else close? kind root (pending ++ f.children) fs

/-- Takes one step. -/
def step (b : Builder) : Step → Builder
  | .leaf node => b.append [node]
  | .opens block => ⟨b.root, ⟨block, []⟩ :: b.frames⟩
  | .closes kind source => (close? kind b.root [] b.frames).getD (b.append [.blank source])

/-- Gives up the blocks that are still open. -/
def unwind (root : List Node) : List Node → List Frame → List Node
  | pending, [] => (pending ++ root).reverse
  | pending, f :: fs => unwind root (pending ++ f.children) fs

def finish (b : Builder) : List Node := unwind b.root [] b.frames

end Builder

/-- The tree that steps build. -/
def ofSteps (steps : List Step) : List Node := (steps.foldl Builder.step .empty).finish

/-- Reads a template. -/
def parse (template : String) : List Node :=
  ofSteps ((segments template.toList).map Segment.step)

end MinuteBook.Markup
