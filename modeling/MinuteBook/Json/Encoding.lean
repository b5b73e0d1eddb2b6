import MinuteBook.Text.Surrogate
import MinuteBook.Text.Utf8

/-!
# Encodings of JSON

The encoding of a JSON text in bytes is told by the byte order mark at its front. A text without a
mark begins with two characters of ASCII, so the zeros among its first bytes tell whether it is in
UTF-8, or in UTF-16 or UTF-32 with either byte of a unit first. Halves of surrogate pairs are let
through in each of them.
-/

namespace MinuteBook.Json

/-- Which byte of a unit comes first. -/
inductive ByteOrder where
  | highFirst
  | lowFirst
  deriving DecidableEq

inductive Encoding where
  | utf8
  | utf16 (order : ByteOrder)
  | utf32 (order : ByteOrder)
  deriving DecidableEq

namespace Encoding

/-- The byte order marks with their encodings. The mark of UTF-32 with the low byte first begins
like that of UTF-16, so it is looked for before it. -/
def marks : List (List UInt8 × Encoding) :=
  [([0x00, 0x00, 0xfe, 0xff], .utf32 .highFirst), ([0xff, 0xfe, 0x00, 0x00], .utf32 .lowFirst),
    ([0xfe, 0xff], .utf16 .highFirst), ([0xff, 0xfe], .utf16 .lowFirst),
    ([0xef, 0xbb, 0xbf], .utf8)]

/-- The encoding that the first bytes of a text without a mark tell. -/
def ofBytes : List UInt8 → Encoding
  | a :: b :: c :: d :: _ =>
    if a = 0 then if b = 0 then .utf32 .highFirst else .utf16 .highFirst
    else if b = 0 then if c = 0 && d == 0 then .utf32 .lowFirst else .utf16 .lowFirst
    else .utf8
  | [a, b] => if a = 0 then .utf16 .highFirst else if b = 0 then .utf16 .lowFirst else .utf8
  | _ => .utf8

/-- The encoding of a text, and the text without its mark. -/
def detect (bytes : List UInt8) : Encoding × List UInt8 :=
  match marks.find? fun m => m.1.isPrefixOf bytes with
  | some (mark, encoding) => (encoding, bytes.drop mark.length)
  | none => (ofBytes bytes, bytes)

/-! ## Units -/

/-- The number that bytes spell. -/
def unit (order : ByteOrder) (bytes : List UInt8) : Nat :=
  let highFirst := match order with
    | .highFirst => bytes
    | .lowFirst => bytes.reverse
  highFirst.foldl (fun n b => 256 * n + b.toNat) 0

/-- The units of two bytes each. -/
def pairs? (order : ByteOrder) : List UInt8 → Option (List Nat)
  | [] => some []
  | [_] => none
  | a :: b :: r => do return unit order [a, b] :: (← pairs? order r)

/-- The units of four bytes each. -/
def quads? (order : ByteOrder) : List UInt8 → Option (List Nat)
  | [] => some []
  | a :: b :: c :: d :: r => do return unit order [a, b, c, d] :: (← quads? order r)
  | _ => none

/-- The code point that a byte begins, if it takes more bytes; halves of pairs are some. -/
def ofFirst? (b : Nat) : Option Text.Partial :=
  if b = 0xed then some ⟨0xd, 2, 0x80, 0xbf⟩ else Text.Partial.ofFirst? b

/-- The code points of UTF-8 behind one of which some bytes have been read. -/
def codePoints? : Option Text.Partial → List UInt8 → Option (List Nat)
  | none, [] => some []
  | some _, [] => none
  | none, b :: r =>
    if b.toNat < 0x80 then do return b.toNat :: (← codePoints? none r)
    else do codePoints? (some (← ofFirst? b.toNat)) r
  | some p, b :: r =>
    let q := p.next b.toNat
    if !p.admits b.toNat then none
    else if q.missing = 0 then do return q.bits :: (← codePoints? none r)
    else codePoints? (some q) r

/-! ## Texts -/

/-- The text that bytes are in an encoding. -/
def decode? (bytes : List UInt8) : Encoding → Option (List Char)
  | .utf8 => (codePoints? none bytes).map fun ns => ns.map Text.ofCodePoint
  | .utf16 order => (pairs? order bytes).map Text.ofUnits
  | .utf32 order => do
    let units ← quads? order bytes
    if units.all (· ≤ 0x10ffff) then some (units.map Text.ofCodePoint) else none

end Encoding

/-- The text that bytes are in the encoding that they tell. -/
def decode? (bytes : List UInt8) : Option String :=
  let (encoding, bytes) := Encoding.detect bytes
  (encoding.decode? bytes).map String.ofList

end MinuteBook.Json
