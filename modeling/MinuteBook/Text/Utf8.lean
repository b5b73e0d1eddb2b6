/-!
# Reading UTF-8

Bytes as text, where not all of them need to be text. A run of bytes that begins a character and
does not end it gives one replacement character, and so does a byte that begins none.
-/

namespace MinuteBook.Text

/-- A character of which some bytes have been read. -/
structure Partial where
  /-- The number that the bits read so far spell. -/
  bits : Nat
  /-- How many bytes are missing. -/
  missing : Nat
  /-- The least value of the next byte. -/
  low : Nat
  /-- The greatest value of the next byte. -/
  high : Nat

namespace Partial

/-- The character that a byte begins, if it takes more bytes. The second byte is bounded so that no
character is spelled with more bytes than it needs, and none is half of a pair or out of range. -/
def ofFirst? (b : Nat) : Option Partial :=
  if 0xc2 ≤ b && b ≤ 0xdf then some ⟨b - 0xc0, 1, 0x80, 0xbf⟩
  else if b = 0xe0 then some ⟨0, 2, 0xa0, 0xbf⟩
  else if b = 0xed then some ⟨0xd, 2, 0x80, 0x9f⟩
  else if 0xe1 ≤ b && b ≤ 0xef then some ⟨b - 0xe0, 2, 0x80, 0xbf⟩
  else if b = 0xf0 then some ⟨0, 3, 0x90, 0xbf⟩
  else if 0xf1 ≤ b && b ≤ 0xf3 then some ⟨b - 0xf0, 3, 0x80, 0xbf⟩
  else if b = 0xf4 then some ⟨4, 3, 0x80, 0x8f⟩
  else none

/-- Says whether a byte goes on with a character. -/
def admits (p : Partial) (b : Nat) : Bool := p.low ≤ b && b ≤ p.high

/-- The character with one more byte. -/
def next (p : Partial) (b : Nat) : Partial :=
  ⟨64 * p.bits + (b - 0x80), p.missing - 1, 0x80, 0xbf⟩

end Partial

/-- The character in place of bytes that are none. -/
def replacement : Char := '\ufffd'

/-- What a byte at the beginning of a character gives at once, and what it leaves open. -/
def beginWith (b : Nat) : List Char × Option Partial :=
  if b < 0x80 then ([Char.ofNat b], none)
  else match Partial.ofFirst? b with
    | some p => ([], some p)
    | none => ([replacement], none)

/-- The characters of bytes behind a character of which some bytes have been read. -/
def decodeFrom : Option Partial → List UInt8 → List Char
  | none, [] => []
  | some _, [] => [replacement]
  | none, b :: r =>
    let (chars, p) := beginWith b.toNat
    chars ++ decodeFrom p r
  | some p, b :: r =>
    if p.admits b.toNat then
      let q := p.next b.toNat
      if q.missing = 0 then Char.ofNat q.bits :: decodeFrom none r else decodeFrom (some q) r
    else
      let (chars, q) := beginWith b.toNat
      replacement :: chars ++ decodeFrom q r

/-- The text of bytes. -/
def ofUtf8 (bytes : List UInt8) : String := String.ofList (decodeFrom none bytes)

end MinuteBook.Text
