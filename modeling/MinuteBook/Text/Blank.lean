/-!
# Blank characters

White space in every script. `Text.strip` takes it off both ends of a text; what is left neither
begins nor ends with a blank.
-/

namespace MinuteBook.Text

/-- White space of every script, and the four information separators of ASCII. -/
def isBlank (c : Char) : Bool :=
  let n := c.toNat
  (9 ≤ n && n ≤ 13) || (28 ≤ n && n ≤ 32) || n == 0x85 || n == 0xa0 || n == 0x1680 ||
    (0x2000 ≤ n && n ≤ 0x200a) || n == 0x2028 || n == 0x2029 || n == 0x202f || n == 0x205f ||
    n == 0x3000

def dropBlanks (s : List Char) : List Char := s.dropWhile isBlank

/-- Drops the blanks at the end. -/
def dropBlanksRight (s : List Char) : List Char := (s.reverse.dropWhile isBlank).reverse

/-- Drops the blanks at both ends. -/
def strip (s : List Char) : List Char := dropBlanksRight (dropBlanks s)

theorem length_dropBlanks_le (s : List Char) : (dropBlanks s).length ≤ s.length :=
  (List.dropWhile_suffix isBlank).length_le

@[simp] theorem dropBlanks_nil : dropBlanks [] = [] := rfl

@[simp] theorem strip_nil : strip [] = [] := rfl

/-- The text without the blanks at its ends. -/
def stripped (s : String) : String := String.ofList (strip s.toList)

end MinuteBook.Text
