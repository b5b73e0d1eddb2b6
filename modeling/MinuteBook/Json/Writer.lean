import MinuteBook.Number.Shortest
import MinuteBook.Text.Quoted
import MinuteBook.Value.Basic

/-!
# Writing JSON

The text of a value as JSON, either in ASCII alone or with other characters as they are.
-/

namespace MinuteBook.Json

/-- A code unit as an escape. -/
def unitEscape (n : Nat) : List Char := '\\' :: 'u' :: Text.hex 4 n

/-- Which characters are written as they are. -/
inductive Charset where
  | ascii
  | unicode
  deriving DecidableEq

/-- One character between quotes. A character beyond the basic plane is written as two halves, and
a half on its own is never written as it is. -/
def escapeChar (charset : Charset) (c : Char) : List Char :=
  if c = '"' then ['\\', '"']
  else if c = '\\' then ['\\', '\\']
  else if c = '\n' then ['\\', 'n']
  else if c = '\r' then ['\\', 'r']
  else if c = '\t' then ['\\', 't']
  else if c.toNat = 8 then ['\\', 'b']
  else if c.toNat = 12 then ['\\', 'f']
  else if c.toNat < 32 then unitEscape c.toNat
  else if Text.keepsHalf c then unitEscape (Text.codePoint c)
  else if charset = .unicode || c.toNat < 127 then [c]
  else if c.toNat < 0x10000 then unitEscape c.toNat
  else
    unitEscape (0xd800 + (c.toNat - 0x10000) / 0x400) ++
      unitEscape (0xdc00 + (c.toNat - 0x10000) % 0x400)

/-- A text between quotes. -/
def quote (charset : Charset) (s : String) : List Char :=
  '"' :: s.toList.flatMap (escapeChar charset) ++ ['"']

def writeDouble : Double → List Char
  | .nan _ => "NaN".toList
  | .infinite neg => (if neg then "-Infinity" else "Infinity").toList
  | x => x.text.toList

/-- Parts with a comma and a space between them. -/
def separated : List (List Char) → List Char
  | [] => []
  | [part] => part
  | part :: parts => part ++ ',' :: ' ' :: separated parts

mutual

/-- A value on one line. Dates are written as text, bytes as their numbers and sets as lists, and
a key that is no text as its own text between quotes. -/
def writeChars (charset : Charset) : Value → List Char
  | .null => "null".toList
  | .bool b => (if b then "true" else "false").toList
  | .int n => (Text.int n).toList
  | .double x => writeDouble x
  | .text s => quote charset s
  | .date d => quote charset d.iso
  | .dateTime t => quote charset t.iso
  | .zoned t z => quote charset (t.zonedIsoWith 'T' z)
  | .bytes b => '[' :: separated (b.map fun x => Text.natDigits x.toNat) ++ [']']
  | .list vs => '[' :: separated (writeItems charset vs) ++ [']']
  | .tuple vs => '[' :: separated (writeItems charset vs) ++ [']']
  | .set vs => '[' :: separated (writeItems charset vs) ++ [']']
  | .mapping es => '\x7b' :: separated (writeEntries charset es) ++ ['\x7d']

def writeItems (charset : Charset) : List Value → List (List Char)
  | [] => []
  | v :: vs => writeChars charset v :: writeItems charset vs

def writeEntries (charset : Charset) : Record → List (List Char)
  | [] => []
  | (k, v) :: es =>
    let key := match k with
      | .text s => quote charset s
      | k => '"' :: writeChars charset k ++ ['"']
    (key ++ ':' :: ' ' :: writeChars charset v) :: writeEntries charset es

end

/-- The JSON text of a value on one line. -/
def write (charset : Charset) (v : Value) : String := String.ofList (writeChars charset v)

end MinuteBook.Json
