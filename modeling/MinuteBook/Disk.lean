import MinuteBook.Text.Split

/-!
# Files and folders

The disk as a value. A place is reached through named folders; at a place there is a folder, a
file, or nothing. A path may also lead back out of a folder, so it is first walked to a place.
Every operation answers with the reason why it cannot be done, or with the disk as it is afterwards.
-/

namespace MinuteBook

/-- The names on the way to a place, the outermost first. In a path two dots stand for the way
back. -/
abbrev Location := List String

namespace Location

/-- A path written with slashes. Empty names and single dots say nothing. -/
def ofText (path : String) : Location :=
  ((Text.split '/' path.toList).map String.ofList).filter fun name => name != "" && name != "."

def text (path : Location) : String := String.intercalate "/" path

def name (path : Location) : String := path.getLast?.getD ""

/-- The path without its last name. -/
def parent (path : Location) : Location := path.dropLast

end Location

inductive Entry where
  | folder
  | file (content : ByteArray)

instance : DecidableEq Entry
  | .folder, .folder => .isTrue rfl
  | .folder, .file _ => .isFalse nofun
  | .file _, .folder => .isFalse nofun
  | .file a, .file b =>
    if h : a.data = b.data then .isTrue (congrArg Entry.file (ByteArray.ext h))
    else .isFalse fun same => h (congrArg ByteArray.data (Entry.file.inj same))

/-- What is on the disk, but for the outermost folder. -/
structure Disk where
  entries : List (Location × Entry)
  deriving DecidableEq

namespace Disk

/-- Why an operation cannot be done. -/
inductive Error where
  | missing
  | isFolder
  | notFolder
  /-- There is something where a folder or a file is to be made. -/
  | occupied
  /-- A name or a whole path is too long. -/
  | nameTooLong
  /-- A name holds the character NUL. -/
  | forbiddenName
  /-- The operating system refuses for another reason. -/
  | refused
  deriving DecidableEq

def empty : Disk := ⟨[]⟩

/-- What is at a place. -/
def get? (d : Disk) (place : Location) : Option Entry :=
  if place = [] then some .folder else d.entries.lookup place

/-- Puts an entry at a place, in the place of what was there. -/
def put (d : Disk) (place : Location) (e : Entry) : Disk :=
  ⟨(place, e) :: d.entries.filter fun x => x.1 != place⟩

/-- Takes away what is at a place. -/
def erase (d : Disk) (place : Location) : Disk := ⟨d.entries.filter fun x => x.1 != place⟩

/-- Takes away what is at a place and in it. -/
def eraseTree (d : Disk) (place : Location) : Disk :=
  ⟨d.entries.filter fun x => !place.isPrefixOf x.1⟩

/-! ## Paths -/

/-- The most bytes that a name takes in UTF-8. -/
def maxName : Nat := 255

/-- The most bytes that a path takes in UTF-8. -/
def maxPath : Nat := 4095

/-- The place to which names lead from another place. Every name is looked up in a folder. -/
def walk (d : Disk) (here : Location) : List String → Except Error Location
  | [] => .ok here
  | name :: rest =>
    match d.get? here with
    | none => .error .missing
    | some (.file _) => .error .notFolder
    | some .folder =>
      if name = ".." then d.walk here.dropLast rest
      else if maxName < name.utf8ByteSize then .error .nameTooLong
      else d.walk (here ++ [name]) rest

/-- The place to which a path leads. There need not be anything at it, but the folder that holds it
is there. -/
def resolve (d : Disk) (path : Location) : Except Error Location :=
  if path.any fun name => name.toList.contains '\x00' then .error .forbiddenName
  else if maxPath < path.text.utf8ByteSize then .error .nameTooLong
  else d.walk [] path

/-- The entry at the end of a path, if there is one. It is an error only if the path is too long. -/
def find? (d : Disk) (path : Location) : Except Error (Option Entry) :=
  match d.resolve path with
  | .ok place => .ok (d.get? place)
  | .error .nameTooLong => .error .nameTooLong
  | .error _ => .ok none

/-! ## Operations -/

/-- The content of a file. -/
def read (d : Disk) (path : Location) : Except Error ByteArray := do
  match d.get? (← d.resolve path) with
  | some (.file content) => return content
  | some .folder => throw .isFolder
  | none => throw .missing

/-- The names at a place, sorted. -/
def namesAt (d : Disk) (place : Location) : List String :=
  (d.entries.filterMap fun x =>
    if x.1 ≠ [] ∧ x.1.parent = place then some x.1.name else none).mergeSort fun a b => a ≤ b

/-- The names in a folder, sorted. There are none in what is no folder. -/
def names (d : Disk) (folder : Location) : List String :=
  match d.resolve folder with
  | .ok place => d.namesAt place
  | .error _ => []

/-- Makes a folder unless it is there already; says at what place it is. -/
def makeFolder (d : Disk) (path : Location) : Except Error (Disk × Location) := do
  let place ← d.resolve path
  match d.get? place with
  | some .folder => return (d, place)
  | some (.file _) => throw .occupied
  | none => return (d.put place .folder, place)

/-- Makes a folder, after the folders on the way to it if they are missing. What has been made
stays, even if the folder itself cannot be made. -/
def makeFolders (d : Disk) (path : Location) : Disk × Except Error Location :=
  match d.makeFolder path with
  | .ok (d, place) => (d, .ok place)
  | .error .missing =>
    if _h : path = [] then (d, .error .missing)
    else
      match d.makeFolders path.dropLast with
      | (d, .error e) => (d, .error e)
      | (d, .ok _) =>
        match d.makeFolder path with
        | .ok (d, place) => (d, .ok place)
        | .error e => (d, .error e)
  | .error e => (d, .error e)
termination_by path.length
decreasing_by
  have := List.length_pos_iff.2 _h
  simp only [List.length_dropLast]; omega

/-- Writes a file into a folder that is there. -/
def write (d : Disk) (path : Location) (content : ByteArray) : Except Error Disk := do
  let place ← d.resolve path
  if d.get? place = some .folder then throw .isFolder
  else return d.put place (.file content)

/-- Moves a file to the end of a path, over a file that is there. -/
def replace (d : Disk) (source target : Location) : Except Error Disk := do
  let source ← d.resolve source
  let target ← d.resolve target
  match d.get? source with
  | some (.file content) =>
    if d.get? target = some .folder then throw .isFolder
    else return (d.erase source).put target (.file content)
  | some .folder => throw .isFolder
  | none => throw .missing

/-- Line ends as text mode reads them: a carriage return, with or without a line feed behind it,
is a line feed. -/
def normalLines : List Char → List Char
  | [] => []
  | '\r' :: '\n' :: r => '\n' :: normalLines r
  | '\r' :: r => '\n' :: normalLines r
  | c :: r => c :: normalLines r

/-- The text of a content, if it is text in UTF-8. -/
def decode (content : ByteArray) : Option String :=
  (String.fromUTF8? content).map fun s => String.ofList (normalLines s.toList)

theorem get?_put (d : Disk) (place : Location) (e : Entry) (other : Location) (h : place ≠ []) :
    (d.put place e).get? other = if other = place then some e else d.get? other := by
  by_cases ho : other = []
  · subst ho; simp [get?, Ne.symm h]
  · simp only [get?, ho, if_false, put, List.lookup_cons]
    by_cases hk : other = place
    · simp [hk]
    · simp only [beq_eq_false_iff_ne.2 hk, hk, if_false]
      induction d.entries with
      | nil => rfl
      | cons x xs ih =>
        obtain ⟨l, x⟩ := x
        by_cases hl : l = place
        · subst hl
          simp [List.lookup_cons, beq_eq_false_iff_ne.2 hk, ih]
        · by_cases hol : other = l
          · subst hol; simp [hl]
          · simp [hl, List.lookup_cons, beq_eq_false_iff_ne.2 hol, ih]

end Disk

end MinuteBook
