import MinuteBook.DataFile
import MinuteBook.Json.Reader
import MinuteBook.Register

/-!
# Numbering with a file

A register together with the file that keeps it. A number is `SHOLD-2025-01-RES-DIST`: the entity,
the year, the number in the series with at least two digits, and the tag of the kind of document.

The file is written aside under a name of its own and then put in the place of the old one, so that
a failure at any step leaves the old file as it was.
-/

namespace MinuteBook

/-- A register and the place of its file, if it is kept in one. -/
structure Numbering where
  register : Register
  file : Option Location
  deriving DecidableEq

namespace Numbering

/-- A number with at least two places, the sign counting as one. -/
def twoPlaces (n : Int) : Except Fault String :=
  if 0 ≤ n ∧ n < 10 then .ok ("0" ++ Text.int n) else Value.wholeText n

/-- The id of a document. -/
def idText (s : Series) (n : Int) (tag : Value) : Except Fault String := do
  return s.entity ++ "-" ++ (← Value.wholeText s.year) ++ "-" ++ (← twoPlaces n) ++ "-RES-" ++
    (← tag.display)

/-- The year of a value that is a date. -/
def yearOf (v : Value) : Except Fault Int :=
  match v with
  | .date d => .ok d.year
  | .dateTime t | .zoned t _ => .ok t.date.year
  | _ => .error .notDate

/-- Gives out the next number of a series and makes an id of it. The number is given out even if
there is no text for the id. -/
def issue (n : Numbering) (s : Series) (tag : Value) : Numbering × Except Fault String :=
  let register := n.register.bump s
  ({ n with register }, idText s (register.last s) tag)

/-- The next id of an entity for a document of the given date. -/
def issueOn (n : Numbering) (entity : String) (date tag : Value) :
    Numbering × Except Fault String :=
  match yearOf date with
  | .ok year => n.issue ⟨entity, year⟩ tag
  | .error f => (n, .error f)

/-! ## Saving -/

/-- The steps of saving at which the operating system may refuse. -/
inductive Step where
  | makeFolders
  | create
  | write
  | replace
  deriving DecidableEq

/-- Characters of which marks are made. -/
def isMarkChar (c : Char) : Bool := ('a' ≤ c && c ≤ 'z') || c.isDigit || c == '_'

/-- A mark by which the name of a file written aside differs from other names. -/
structure Mark where
  text : List Char
  length_text : text.length = 8
  all_text : text.all isMarkChar = true
  deriving DecidableEq

/-- What the operating system decides about a save. -/
structure System where
  /-- Says which steps it refuses, for reasons that the disk does not show. -/
  refuses : Step → Bool
  /-- How many names of the path have their folders when it refuses to make more of them. -/
  reach : Nat
  /-- The marks of which one is taken, in the order in which they are tried. -/
  marks : List Mark

/-- An operating system that refuses nothing. -/
def System.willing : System where
  refuses _ := false
  reach := 0
  marks := [⟨"00000000".toList, by decide, by decide⟩]

/-- Why a register is not saved. -/
inductive SaveError where
  | noFile
  | disk (file : Location) (e : Disk.Error)
  /-- The register has no written form, or the path of the file can be that of none. -/
  | fault (f : Fault)
  deriving DecidableEq

namespace SaveError

/-- What an error of the disk means for the file. -/
def ofDisk (file : Location) : Disk.Error → SaveError
  | .forbiddenName => .fault .badPath
  | e => .disk file e

/-- The message of a failed save, given the words for the cause. -/
def message (words : DataFile.Wording) : SaveError → String
  | .noFile => "No register path configured"
  | .disk _ e => "Could not write register: " ++ words.disk e
  | .fault f => f.cause words.fault

def file? : SaveError → Option Location
  | .disk file _ => some file
  | _ => none

end SaveError

/-- The name under which a file is written aside. -/
def asideName (name : String) (m : Mark) : String :=
  "." ++ name ++ "." ++ String.ofList m.text ++ ".tmp"

/-- The place in a folder, beside the file of a name, to which a text is written aside: the first of
those that are tried at which there is nothing. -/
def aside (marks : List Mark) (d : Disk) (folder : Location) (name : String) :
    Except Disk.Error Location :=
  match marks.find? fun m => (d.get? (folder ++ [asideName name m])).isNone with
  | some m => .ok (folder ++ [asideName name m])
  | none => .error .occupied

/-- A step that may be refused. -/
def attempt (sys : System) (step : Step) (run : Except Disk.Error Disk) :
    Except Disk.Error Disk :=
  if sys.refuses step then .error .refused else run

/-- Makes the folder of a file. If that is refused, some of the folders on the way to it may have
been made. -/
def makeFolders (sys : System) (d : Disk) (file : Location) : Disk × Except Disk.Error Location :=
  if sys.refuses .makeFolders then ((d.makeFolders (file.parent.take sys.reach)).1, .error .refused)
  else d.makeFolders file.parent

/-- Writes a text aside and puts it in the place of a file. The disk is that after the last step
that was done, without the text aside. -/
def writeFile (sys : System) (d : Disk) (file : Location) (text : String) :
    Disk × Except Disk.Error Unit :=
  match makeFolders sys d file with
  | (d, .error e) => (d, .error e)
  | (d, .ok folder) =>
    match aside sys.marks d folder file.name with
    | .error e => (d, .error e)
    | .ok place =>
      match attempt sys .create (d.write place .empty) with
      | .error e => (d, .error e)
      | .ok d' =>
        match attempt sys .write (d'.write place text.toUTF8) with
        | .error e => (d'.erase place, .error e)
        | .ok d' =>
          match attempt sys .replace (d'.replace place file) with
          | .error e => (d'.erase place, .error e)
          | .ok d' => (d', .ok ())

/-- Saves the register to a file, by default its own. -/
def save (sys : System) (n : Numbering) (file : Option Location) (d : Disk) :
    Disk × Except SaveError Unit :=
  match file.or n.file with
  | none => (d, .error .noFile)
  | some file =>
    match n.register.text with
    | .error f => (d, .error (.fault f))
    | .ok text =>
      let (d, result) := writeFile sys d file text
      (d, result.mapError (.ofDisk file))

/-! ## Loading -/

/-- The register in a file. What cannot be read as a register is an empty one; only a number that
is infinite is a fault. -/
def load (d : Disk) (file : Location) : Except Fault Register :=
  match d.read file with
  | .error _ => .ok .empty
  | .ok content =>
    match (Disk.decode content).bind Json.read with
    | none => .ok .empty
    | some v => match Register.ofValue v with
      | .ok r => .ok r
      | .error (.fault .infinite) => .error .infinite
      | .error _ => .ok .empty

/-- The numbering kept in a file. -/
def ofFile (d : Disk) (file : Location) : Except Fault Numbering := do
  return ⟨← load d file, some file⟩

end Numbering

end MinuteBook
