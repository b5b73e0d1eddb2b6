/-!
# Halves of surrogate pairs

The code points from U+D800 to U+DFFF are halves of pairs and no characters. An escape may spell
one on its own all the same. A text keeps such a half as the character with the same last four
digits in plane 13, where no characters are assigned; `codePoint` gives back what was spelled.

So a sequence of code points is represented if it holds none from U+DD800 to U+DDFFF, and different
such sequences are different texts. The unassigned characters of that range do not stand for
themselves.
-/

namespace MinuteBook.Text

/-- Says whether a code point is half of a pair. -/
def isHalf (n : Nat) : Bool := 0xd800 ≤ n && n < 0xe000

/-- The first half of a pair. -/
def isHighHalf (n : Nat) : Bool := 0xd800 ≤ n && n < 0xdc00

/-- The second half of a pair. -/
def isLowHalf (n : Nat) : Bool := 0xdc00 ≤ n && n < 0xe000

/-- The code point of which two halves are the pair. -/
def joined (high low : Nat) : Nat := 0x10000 + (high - 0xd800) * 0x400 + (low - 0xdc00)

/-- How far above a half the character stands that keeps it. -/
def halfShift : Nat := 0xd0000

/-- The character that keeps a code point. -/
def ofCodePoint (n : Nat) : Char := Char.ofNat (if isHalf n then n + halfShift else n)

/-- The characters of code units of two bytes; the halves of a pair in a row are one character. -/
def ofUnits : List Nat → List Char
  | [] => []
  | [n] => [ofCodePoint n]
  | n :: m :: r =>
    if isHighHalf n && isLowHalf m then ofCodePoint (joined n m) :: ofUnits r
    else ofCodePoint n :: ofUnits (m :: r)

/-- The code point that a character keeps. -/
def codePoint (c : Char) : Nat :=
  if isHalf (c.toNat - halfShift) then c.toNat - halfShift else c.toNat

/-- Says whether a character keeps half of a pair. -/
def keepsHalf (c : Char) : Bool := isHalf (codePoint c)

theorem isHalf_iff {n : Nat} : isHalf n = true ↔ 0xd800 ≤ n ∧ n < 0xe000 := by
  simp [isHalf]

theorem codePoint_of_lt {c : Char} (h : c.toNat < 0xdd800) : codePoint c = c.toNat :=
  if_neg fun hc => by
    have := isHalf_iff.1 hc
    simp only [halfShift] at this
    omega

/-- The bytes of a text in UTF-8. A text with half of a pair has none. -/
def utf8? (s : String) : Option ByteArray := if s.toList.any keepsHalf then none else some s.toUTF8

/-- The order of texts by code points. -/
def before : List Char → List Char → Bool
  | _, [] => false
  | [], _ :: _ => true
  | a :: s, b :: t => codePoint a < codePoint b || (codePoint a == codePoint b && before s t)

end MinuteBook.Text
