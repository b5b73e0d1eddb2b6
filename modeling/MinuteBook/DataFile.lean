import MinuteBook.Disk
import MinuteBook.Fault
import MinuteBook.Value.Basic

/-!
# Data files

A template or a list of entities is kept in a file with a YAML document; JSON is a part of YAML.
What reads the text of a document is not part of this library: it is a parameter of everything that
is read from data files.
-/

namespace MinuteBook.DataFile

/-- Why a reader has no data for a text. -/
inductive Refusal where
  /-- The text is no document, as the reader says. -/
  | malformed (text : String)
  /-- The reader comes to grief over it. -/
  | failed (e : Foreign)
  deriving DecidableEq

/-- What reads the data in a text. Data are finite trees: a value that holds itself is none. -/
abbrev Reader := String → Except Refusal Value

/-- Why a file gives no data. -/
inductive Error where
  | disk (e : Disk.Error)
  /-- The file is no text in UTF-8. -/
  | notText
  | refused (e : Refusal)
  deriving DecidableEq

/-- Reads the data in a file. -/
def read (reader : Reader) (d : Disk) (path : Location) : Except Error Value :=
  match d.read path with
  | .error e => .error (.disk e)
  | .ok content => match Disk.decode content with
    | none => .error .notText
    | some text => (reader text).mapError .refused

/-- How messages word what goes wrong. -/
structure Wording where
  fault : Fault → String
  disk : Disk.Error → String
  notText : String

end MinuteBook.DataFile
