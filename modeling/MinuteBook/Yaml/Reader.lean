import MinuteBook.DataFile
import MinuteBook.Yaml.Node
import MinuteBook.Yaml.Scalar

/-!
# Reading YAML

A reader of data files to run the library with. It knows a part of YAML, one document in block or
flow style: anchors, tags, directives and explicit keys are refused. Other readers know more; what
is told of catalogues and entities is told of every reader.

The structure of blocks follows from the columns of the first tokens of lines; inside brackets and
braces the lines do not matter. Characters that cannot be printed are refused, and so are tabs
between tokens.
-/

namespace MinuteBook.Yaml

/-- An entry of a sequence in block style begins here. -/
def isDash : List Char → Bool
  | '-' :: r => atSpace r
  | _ => false

/-- The colon behind a key in block style. -/
def isColon : List Char → Bool
  | ':' :: r => atSpace r
  | _ => false

/-- The greatest distance between the beginning of a key and its colon. -/
def maxKeyLength : Nat := 1024

/-- Says whether a scalar can be a key: it stands on one line with its colon, not too far away. -/
def Scalar.canBeKey (sc : Scalar) (start : List Char) : Bool :=
  sc.oneLine && !sc.next.fresh && start.length - sc.next.rest.length ≤ maxKeyLength

/-! ## Flow style -/

mutual

/-- Reads a node in flow style. The last part of the answer says whether the node can be a key. -/
def flowNode : Nat → Cursor → Except Error (Node × Cursor × Bool)
  | 0, _ => .error .malformed
  | n + 1, c =>
    if c.atEnd then .error .malformed
    else match c.rest with
      | '[' :: r => do
        let (items, next) ← flowItems n (afterToken r)
        return (.sequence items, next, false)
      | '\x7b' :: r => do
        let (entries, next) ← flowEntries n (afterToken r)
        return (.mapping entries, next, false)
      | '\x27' :: r => do
        let sc ← readQuoted '\x27' r
        return (.quoted sc.text, sc.next, sc.canBeKey c.rest)
      | '"' :: r => do
        let sc ← readQuoted '"' r
        return (.quoted sc.text, sc.next, sc.canBeKey c.rest)
      | s =>
        if startsPlain true s then
          let sc := readPlain true 0 s
          .ok (.plain sc.text, sc.next, sc.canBeKey s)
        else .error .malformed

/-- Reads a node and, if it is a key, the colon and the value behind it. A value that is left out
is null. -/
def flowPair : Nat → Cursor → Except Error (Node × Option Node × Cursor)
  | 0, _ => .error .malformed
  | n + 1, c => do
    let (node, next, canBeKey) ← flowNode n c
    match next.rest with
    | ':' :: r =>
      if canBeKey then
        let c := afterToken r
        if c.rest.head?.any fun d => d == ',' || d == ']' || d == '\x7d' then
          return (node, some (.plain []), c)
        else
          let (value, next, _) ← flowNode n c
          return (node, some value, next)
      else throw .malformed
    | _ => return (node, none, next)

/-- Reads the items of a sequence up to the closing bracket. A pair among them is a mapping. -/
def flowItems : Nat → Cursor → Except Error (List Node × Cursor)
  | 0, _ => .error .malformed
  | n + 1, c =>
    match c.rest with
    | ']' :: r => .ok ([], afterToken r)
    | _ => do
      let (node, value, next) ← flowPair n c
      let item := match value with
        | some v => Node.mapping [(node, v)]
        | none => node
      match next.rest with
      | ']' :: r => return ([item], afterToken r)
      | ',' :: r =>
        let (items, next) ← flowItems n (afterToken r)
        return (item :: items, next)
      | _ => throw .malformed

/-- Reads the entries of a mapping up to the closing brace. -/
def flowEntries : Nat → Cursor → Except Error (List (Node × Node) × Cursor)
  | 0, _ => .error .malformed
  | n + 1, c =>
    match c.rest with
    | '\x7d' :: r => .ok ([], afterToken r)
    | _ => do
      let (key, value, next) ← flowPair n c
      let entry := (key, value.getD (.plain []))
      match next.rest with
      | '\x7d' :: r => return ([entry], afterToken r)
      | ',' :: r =>
        let (entries, next) ← flowEntries n (afterToken r)
        return (entry :: entries, next)
      | _ => throw .malformed

end

/-! ## Block style -/

/-- Reads a scalar other than a block of lines. Plain scalars go on in lines indented by
`indent`. -/
def readScalar (indent : Nat) (s : List Char) : Except Error (Node × Scalar) :=
  match s with
  | '\x27' :: r => do
    let sc ← readQuoted '\x27' r
    return (.quoted sc.text, sc)
  | '"' :: r => do
    let sc ← readQuoted '"' r
    return (.quoted sc.text, sc)
  | _ =>
    if startsPlain false s then
      let sc := readPlain false indent s
      .ok (.plain sc.text, sc)
    else .error .malformed

/-- The place behind a dash or a colon. -/
def afterMark (c : Cursor) (fresh : Bool) : Cursor :=
  skipFrom false (c.rest.drop 1) (c.column + 1) fresh

/-- Says whether the cursor is at the next entry of a collection in a column. -/
def Cursor.continues (c : Cursor) (column : Nat) : Bool :=
  !c.atEnd && c.fresh && c.column == column

mutual

/-- Reads a node inside a collection whose entries stand in column `least - 1`; outside of all
collections `least` is 0. What stands further left belongs to the outside, but the dashes of
a sequence that is the value of a key may stand in the column of the key. -/
def blockNode : Nat → Nat → Bool → Cursor → Except Error (Node × Cursor)
  | 0, _, _, _ => .error .malformed
  | n + 1, least, ofKey, c =>
    let outside := c.fresh && c.column < least &&
      !(ofKey && c.column + 1 == least && isDash c.rest)
    if c.atEnd || outside then .ok (.plain [], c)
    else if isDash c.rest then
      if c.fresh then do
        let (items, next) ← blockItems n least c.column c
        return (.sequence items, next)
      else .error .malformed
    else match c.rest with
      | '[' :: _ | '\x7b' :: _ => do
        let (node, next, _) ← flowNode n c
        return (node, next)
      | '|' :: r => do
        let sc ← readBlock false (max least 1) r
        return (.quoted sc.text, sc.next)
      | '>' :: r => do
        let sc ← readBlock true (max least 1) r
        return (.quoted sc.text, sc.next)
      | s => do
        let (node, sc) ← readScalar least s
        if isColon sc.next.rest && c.fresh && sc.canBeKey s then
          let (entries, next) ← blockEntries n c.column node sc.next
          return (.mapping entries, next)
        else return (node, sc.next)

/-- Reads the entries of a sequence whose dashes stand in a column, from a dash on. -/
def blockItems : Nat → Nat → Nat → Cursor → Except Error (List Node × Cursor)
  | 0, _, _, _ => .error .malformed
  | n + 1, least, column, c => do
    let (item, next) ← blockNode n (max least (column + 1)) false (afterMark c true)
    if next.continues column && isDash next.rest then
      let (items, next) ← blockItems n least column next
      return (item :: items, next)
    else return ([item], next)

/-- Reads the entries of a mapping whose keys stand in a column, from a colon on. -/
def blockEntries : Nat → Nat → Node → Cursor → Except Error (List (Node × Node) × Cursor)
  | 0, _, _, _ => .error .malformed
  | n + 1, column, key, c => do
    let (value, next) ← blockNode n (column + 1) true (afterMark c false)
    if next.continues column then
      let (key', sc) ← readScalar (column + 1) next.rest
      if isColon sc.next.rest && sc.canBeKey next.rest then
        let (entries, next) ← blockEntries n column key' sc.next
        return ((key, value) :: entries, next)
      else throw .malformed
    else return ([(key, value)], next)

end

/-! ## Documents -/

/-- Characters that a document may hold. -/
def isAllowed (c : Char) : Bool :=
  let n := c.toNat
  n == 9 || n == 10 || n == 13 || (32 ≤ n && n ≤ 126) || n == 0x85 || (0xa0 ≤ n && n ≤ 0xfffd) ||
    0x10000 ≤ n

/-- Line breaks of every sort as line feeds, but for the two separators of lines and
paragraphs. -/
def unifyBreaks : List Char → List Char
  | [] => []
  | '\r' :: '\n' :: r => '\n' :: unifyBreaks r
  | '\r' :: r => '\n' :: unifyBreaks r
  | '\u0085' :: r => '\n' :: unifyBreaks r
  | c :: r => c :: unifyBreaks r

/-- A byte order mark at the front is passed over. -/
def dropOrderMark : List Char → List Char
  | '\ufeff' :: r => r
  | s => s

/-- The beginning of the node of a document. -/
def documentStart (c : Cursor) : Cursor :=
  match c.rest with
  | '-' :: '-' :: '-' :: r => if c.atEnd then afterToken r else c
  | _ => c

/-- Says whether nothing but the mark of an end follows. -/
def isFinished (c : Cursor) : Bool :=
  match c.rest with
  | [] => true
  | '.' :: '.' :: '.' :: r => c.atEnd && (afterToken r).rest.isEmpty
  | _ => false

/-- Reads the tree of a document. -/
def readNode (text : String) : Except Error Node := do
  let s := text.toList
  if !s.all isAllowed then throw .malformed
  let s := dropOrderMark (unifyBreaks s)
  let c := documentStart (skipFrom false s 0 true)
  let (node, next) ← blockNode (3 * s.length + 3) 0 false c
  if isFinished next then return node else throw .malformed

/-- Reads a document. An empty one is null. -/
def read (text : String) : Except Error Value := do (← readNode text).read

/-- What is wrong with a document, for those who read data files. -/
def Error.refusal : Error → DataFile.Refusal
  | .malformed => .malformed "YAMLError"
  | .badScalar => .failed ⟨.value, "ValueError", "ValueError", "ValueError"⟩
  | .outOfRange => .failed ⟨.other, "OverflowError", "OverflowError", "OverflowError"⟩

/-- The reader of data files. -/
def reader : DataFile.Reader := fun text => (read text).mapError Error.refusal

end MinuteBook.Yaml
