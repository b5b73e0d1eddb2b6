/-!
# Decimal digits

A numeral may be written in the digits of any script (Unicode 14). Each script has its ten digits
in a row, so a table of the zeros is enough. A whole number of more than `maxDigits` digits is
neither read from a text nor written as one.
-/

namespace MinuteBook.Text

/-- The code points of the zeros. -/
def zeroDigits : List Nat := [
  0x30, 0x660, 0x6f0, 0x7c0, 0x966, 0x9e6, 0xa66, 0xae6, 0xb66, 0xbe6, 0xc66, 0xce6, 0xd66, 0xde6,
  0xe50, 0xed0, 0xf20, 0x1040, 0x1090, 0x17e0, 0x1810, 0x1946, 0x19d0, 0x1a80, 0x1a90, 0x1b50,
  0x1bb0, 0x1c40, 0x1c50, 0xa620, 0xa8d0, 0xa900, 0xa9d0, 0xa9f0, 0xaa50, 0xabf0, 0xff10, 0x104a0,
  0x10d30, 0x11066, 0x110f0, 0x11136, 0x111d0, 0x112f0, 0x11450, 0x114d0, 0x11650, 0x116c0,
  0x11730, 0x118e0, 0x11950, 0x11c50, 0x11d50, 0x11da0, 0x16a60, 0x16ac0, 0x16b50, 0x1d7ce,
  0x1d7d8, 0x1d7e2, 0x1d7ec, 0x1d7f6, 0x1e140, 0x1e2f0, 0x1e950, 0x1fbf0]

/-- The digit that a character stands for. -/
def digit? (c : Char) : Option Nat :=
  (zeroDigits.find? fun z => z ≤ c.toNat && c.toNat < z + 10).map (c.toNat - ·)

theorem digit?_lt {c : Char} {d : Nat} (h : digit? c = some d) : d < 10 := by
  obtain ⟨z, hz, rfl⟩ := Option.map_eq_some_iff.1 h
  have := List.find?_some hz
  simp only [Bool.and_eq_true, decide_eq_true_eq] at this
  omega

/-- The digits at the front of a text, and the rest. -/
def spanDigits : List Char → List Nat × List Char
  | [] => ([], [])
  | c :: r =>
    match digit? c with
    | none => ([], c :: r)
    | some d => let (ds, rest) := spanDigits r; (d :: ds, rest)

/-- The number that digits spell, the highest place first. -/
def ofDigits (ds : List Nat) : Nat := ds.foldl (fun n d => 10 * n + d) 0

/-- The decimal digits of a number. -/
def natDigits (n : Nat) : List Char := Nat.toDigits 10 n

/-- The decimal text of a natural number. -/
def nat (n : Nat) : String := String.ofList (natDigits n)

/-- The decimal text of an integer. -/
def int (n : Int) : String :=
  String.ofList (if n < 0 then '-' :: natDigits n.natAbs else natDigits n.natAbs)

/-- The most digits that a whole number has in a text. -/
def maxDigits : Nat := 4300

/-- The first magnitude that takes more digits. -/
@[irreducible] def wholeLimit : Nat := Nat.pow 10 maxDigits

theorem lt_wholeLimit {n k : Nat} (h : n < Nat.pow 10 k) (hk : k ≤ maxDigits) : n < wholeLimit := by
  unfold wholeLimit
  generalize maxDigits = m at hk ⊢
  exact Nat.lt_of_lt_of_le h (Nat.pow_le_pow_right (Nat.succ_pos 9) hk)

/-- The decimal text of an integer that is not too long to be written. -/
def int? (n : Int) : Option String := if n.natAbs < wholeLimit then some (int n) else none

theorem int?_of_lt {n : Int} (h : n.natAbs < wholeLimit) : int? n = some (int n) := if_pos h

end MinuteBook.Text
