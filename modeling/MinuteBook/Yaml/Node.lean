import MinuteBook.Value.Reading
import MinuteBook.Yaml.Plain

/-!
# YAML nodes

A YAML document as a tree of scalars, sequences and mappings. A quoted scalar is a text; a plain one
is what it looks like. A mapping may merge the entries of others under the key `<<`: its own entries
count more, and of the mappings in a sequence the first.

Of several faults in a document that count which stands least deep, and among those the first: the
scalars of a collection are read before the collections inside it.
-/

namespace MinuteBook.Yaml

inductive Node where
  | plain (s : List Char)
  | quoted (s : List Char)
  | sequence (items : List Node)
  | mapping (entries : List (Node × Node))
  deriving Inhabited

namespace Node

/-! ## Merging -/

/-- Says whether a node is the key that merges. -/
def isMergeKey : Node → Bool
  | .plain s => String.ofList s = Plain.mergeKey
  | _ => false

/-- A mapping whose merges cannot be made: its key stands alone and has no value. -/
def unmerged : Node := .mapping [(.plain Plain.mergeKey.toList, .plain [])]

/-- The entries of a mapping that can be merged. -/
def mergeable? : Node → Option (List (Node × Node))
  | .mapping entries => if entries.any fun e => e.1.isMergeKey then none else some entries
  | _ => none

/-- The entries that a value merges: those of a mapping, or of the mappings in a sequence, the last
one first. -/
def mergedEntries? : Node → Option (List (Node × Node))
  | .sequence items => do return (← items.mapM mergeable?).reverse.flatten
  | n => n.mergeable?

/-- A key that has no other meaning than that of a text. -/
def asKey : Node → Node
  | .plain s => if String.ofList s = Plain.defaultKey then .quoted s else .plain s
  | n => n

/-- A mapping with its merges made: what is merged comes before its own entries. -/
def merge (entries : List (Node × Node)) : Node :=
  let (merges, own) := entries.partition fun e => e.1.isMergeKey
  match merges.mapM fun e => e.2.mergedEntries? with
  | some merged => .mapping (merged.flatten ++ own.map fun e => (e.1.asKey, e.2))
  | none => unmerged

mutual

/-- The tree with all merges made. -/
def mergeAll : Node → Node
  | .sequence items => .sequence (mergeItems items)
  | .mapping entries => merge (mergeEntries entries)
  | n => n

def mergeItems : List Node → List Node
  | [] => []
  | n :: ns => mergeAll n :: mergeItems ns

def mergeEntries : List (Node × Node) → List (Node × Node)
  | [] => []
  | (k, v) :: es => (mergeAll k, mergeAll v) :: mergeEntries es

end

/-! ## Values -/

/-- The value of a key. Collections are no keys. -/
def key : Node → Except Error Value
  | .plain s => Plain.value s
  | .quoted s => .ok (.text (String.ofList s))
  | .sequence _ | .mapping _ => .error .malformed

mutual

/-- The value of a node. Of entries with the same key the last one counts. -/
def value : Node → Except Error Value
  | .plain s => Plain.value s
  | .quoted s => .ok (.text (String.ofList s))
  | .sequence items => (values items).map .list
  | .mapping entries => (pairs entries).map fun ps => .mapping (Record.ofPairs ps)

def values : List Node → Except Error (List Value)
  | [] => .ok []
  | n :: ns => do return (← value n) :: (← values ns)

def pairs : List (Node × Node) → Except Error Record
  | [] => .ok []
  | (k, v) :: es => do return (← key k, ← value v) :: (← pairs es)

end

/-! ## Faults -/

/-- Lists side by side, each pair of members put together. -/
def sideBySide {α : Type} : List (List α) → List (List α) → List (List α)
  | [], yss => yss
  | xss, [] => xss
  | xs :: xss, ys :: yss => (xs ++ ys) :: sideBySide xss yss

/-- The fault of a result, if it is one. -/
def faultOf : Except Error Value → List Error
  | .ok _ => []
  | .error e => [e]

mutual

/-- The faults in a node by depth, those of its own scalars first. -/
def faults : Node → List (List Error)
  | .plain s => [faultOf (Plain.value s)]
  | .quoted _ => []
  | .sequence items => [] :: faultsInItems items
  | .mapping entries => [] :: faultsInEntries entries

/-- The faults of the members of a collection, scalars at its own depth. -/
def faultsInItems : List Node → List (List Error)
  | [] => []
  | n :: ns => sideBySide (faults n) (faultsInItems ns)

def faultsInEntries : List (Node × Node) → List (List Error)
  | [] => []
  | (k, v) :: es => sideBySide (faultOf (key k) :: []) (sideBySide (faults v) (faultsInEntries es))

end

/-- The fault of a node that counts. -/
def firstFault (n : Node) : Option Error := n.faults.flatten.head?

/-- The value of a tree. -/
def read (n : Node) : Except Error Value :=
  let n := n.mergeAll
  match n.value with
  | .ok v => .ok v
  | .error e => .error (n.firstFault.getD e)

end Node

end MinuteBook.Yaml
