import MinuteBook.Markup.Node

/-!
# A walk through a tree

Whoever goes through a tree from its beginning to its end meets its leaves, and every block twice:
on entering it and, behind its children, on leaving it (`visitsAll`). The leaves and the blocks are
listed in the order in which they are met (`leaves`, `blocks`).
-/

namespace MinuteBook.Markup

/-- What one meets on the way. -/
inductive Visit where
  | leaf (node : Node)
  | enter (block : Opening)
  | leave (kind : Kind)

namespace Visit

def leaf? : Visit → Option Node
  | .leaf node => some node
  | _ => none

def entered? : Visit → Option Opening
  | .enter block => some block
  | _ => none

end Visit

mutual

/-- The walk through a node. -/
def Node.visits : Node → List Visit
  | .text s => [.leaf (.text s)]
  | .expression e => [.leaf (.expression e)]
  | .blank source => [.leaf (.blank source)]
  | .when test children => .enter (.when test) :: (visitsAll children ++ [.leave .when])
  | .each path children => .enter (.each path) :: (visitsAll children ++ [.leave .each])

/-- The walk through nodes one after another. -/
def visitsAll : List Node → List Visit
  | [] => []
  | n :: ns => n.visits ++ visitsAll ns

end

/-- The leaves of a tree, those inside blocks among them. -/
def leaves (nodes : List Node) : List Node := (visitsAll nodes).filterMap Visit.leaf?

/-- The blocks of a tree without their children, an outer one before those in it. -/
def blocks (nodes : List Node) : List Opening := (visitsAll nodes).filterMap Visit.entered?

@[simp] theorem visitsAll_nil : visitsAll [] = [] := by
  simp [visitsAll]

@[simp] theorem visitsAll_cons (n : Node) (ns : List Node) :
    visitsAll (n :: ns) = n.visits ++ visitsAll ns := by
  simp [visitsAll]

@[simp] theorem visitsAll_append (ms ns : List Node) :
    visitsAll (ms ++ ns) = visitsAll ms ++ visitsAll ns := by
  induction ms with
  | nil => simp
  | cons n ms ih => simp [ih]

@[simp] theorem Opening.visits_node (block : Opening) (children : List Node) :
    (block.node children).visits =
      .enter block :: (visitsAll children ++ [.leave block.kind]) := by
  cases block <;> simp [Opening.node, Opening.kind, Node.visits]

end MinuteBook.Markup
