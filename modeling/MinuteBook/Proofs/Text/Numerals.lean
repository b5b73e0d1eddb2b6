import MinuteBook.Json.Reader
import MinuteBook.Text.Quoted
import MinuteBook.Value.Display

/-!
# Numerals are read back

The decimal text of a number spells that number and no other, and four hexadecimal digits spell
every code unit. Both facts are stated for the readers of digits that JSON uses. The length of a
decimal text is tied to the limit up to which whole numbers are written, so that whatever is written
is short enough to be read.
-/

namespace MinuteBook

namespace Text

/-! ## Decimal digits -/

theorem toNat_of_isDigit {c : Char} (h : c.isDigit = true) : 48 ≤ c.toNat ∧ c.toNat ≤ 57 := by
  simp only [Char.isDigit, Bool.and_eq_true, decide_eq_true_eq, ge_iff_le,
    UInt32.le_iff_toNat_le] at h
  exact h

theorem not_isBlank_of_isDigit {c : Char} (h : c.isDigit = true) : isBlank c = false := by
  obtain ⟨low, high⟩ := toNat_of_isDigit h
  simp only [isBlank, Bool.or_eq_false_iff, Bool.and_eq_false_iff, decide_eq_false_iff_not,
    beq_eq_false_iff_ne]
  omega

theorem isDigit_of_mem_natDigits {n : Nat} {c : Char} (h : c ∈ natDigits n) : c.isDigit = true :=
  Nat.isDigit_of_mem_toDigits (by decide) (by decide) h

theorem natDigits_ne_nil (n : Nat) : natDigits n ≠ [] := Nat.toDigits_ne_nil

/-- The digits of a number, read one after another, give the number. -/
theorem ofDigits_natDigits (n : Nat) : ofDigits (Json.digitsOf (natDigits n)) = n := by
  have h : Nat.ofDigitChars 10 (natDigits n) 0 = n := Nat.ofDigitChars_ten_toDigits
  rw [Nat.ofDigitChars_eq_foldl] at h
  rw [ofDigits, Json.digitsOf, List.foldl_map]
  exact h

theorem natDigits_injective {m n : Nat} (h : natDigits m = natDigits n) : m = n := by
  rw [← ofDigits_natDigits m, h, ofDigits_natDigits]

/-- A number has few enough digits exactly if it is below the limit. -/
theorem length_natDigits_le_iff {n : Nat} : (natDigits n).length ≤ maxDigits ↔ n < wholeLimit := by
  unfold wholeLimit
  generalize small : maxDigits = m
  exact Nat.length_toDigits_le_iff (by decide) (by rw [← small]; decide)

/-- Only zero begins with the digit zero. -/
theorem natDigits_eq_zero_of_head {n : Nat} {r : List Char} (h : natDigits n = '0' :: r) :
    n = 0 ∧ r = [] := by
  induction n using Nat.strongRecOn generalizing r with
  | ind n ih =>
      rw [natDigits, Nat.toDigits_eq_if (by decide)] at h
      split at h
      · rename_i hlt
        simp only [List.cons.injEq] at h
        refine ⟨?_, h.2.symm⟩
        have := Nat.toNat_digitChar_sub_48_of_lt_ten hlt
        rw [h.1] at this
        exact this.symm
      · rename_i hge
        -- The leading part is the numeral of a smaller positive number.
        cases hd : Nat.toDigits 10 (n / 10) with
        | nil => exact absurd hd Nat.toDigits_ne_nil
        | cons c cs =>
            rw [hd, List.cons_append, List.cons.injEq] at h
            have := ih (n / 10) (by omega) (r := cs) (by rw [natDigits, hd, h.1])
            omega

/-! ## Hexadecimal digits -/

theorem hexDigit?_digitChar {d : Nat} (h : d < 16) : Json.hexDigit? d.digitChar = some d := by
  have all : ∀ d : Fin 16, Json.hexDigit? d.val.digitChar = some d.val := by decide
  exact all ⟨d, h⟩

/-- A code unit in four places. -/
theorem hex_four {n : Nat} (h : n < 0x10000) :
    hex 4 n = [(n / 4096).digitChar, (n / 256 % 16).digitChar, (n / 16 % 16).digitChar,
      (n % 16).digitChar] := by
  have step (m : Nat) : Nat.toDigits 16 m =
      if m < 16 then [m.digitChar] else Nat.toDigits 16 (m / 16) ++ [(m % 16).digitChar] :=
    Nat.toDigits_eq_if (by decide)
  have zero : Nat.digitChar 0 = '0' := rfl
  by_cases h₁ : n < 16
  · have : n / 4096 = 0 ∧ n / 256 % 16 = 0 ∧ n / 16 % 16 = 0 ∧ n % 16 = n := by omega
    simp [hex, step n, h₁, this, zero, List.replicate]
  · by_cases h₂ : n < 256
    · have : n / 4096 = 0 ∧ n / 256 % 16 = 0 ∧ n / 16 < 16 ∧ n / 16 % 16 = n / 16 := by omega
      simp [hex, step n, step (n / 16), h₁, this, zero, List.replicate]
    · have d₁ : ¬ n / 16 < 16 := by omega
      by_cases h₃ : n < 4096
      · have : n / 4096 = 0 ∧ n / 16 / 16 < 16 ∧ n / 256 % 16 = n / 16 / 16 := by omega
        simp [hex, step n, step (n / 16), step (n / 16 / 16), h₁, d₁, this, zero]
      · have d₂ : ¬ n / 16 / 16 < 16 := by omega
        have : n / 16 / 16 / 16 < 16 ∧ n / 4096 = n / 16 / 16 / 16 ∧
            n / 256 % 16 = n / 16 / 16 % 16 := by omega
        simp [hex, step n, step (n / 16), step (n / 16 / 16), step (n / 16 / 16 / 16), h₁, d₁, d₂,
          this]

end Text

/-- A whole number is written unless it is too long, and always in its decimal digits. -/
theorem Value.wholeText_eq_ok_iff {n : Int} {t : String} :
    wholeText n = .ok t ↔ n.natAbs < Text.wholeLimit ∧ Text.int n = t := by
  unfold wholeText Text.int?
  split
  · rename_i digits h
    split at h
    · rename_i short
      rw [Option.some.injEq] at h
      simp [h, short]
    · exact absurd h (by simp)
  · rename_i h
    split at h
    · exact absurd h (by simp)
    · rename_i long
      simp [long]

/-- What an escape spells is what its four digits spell. -/
theorem Json.hex4?_digitChar {n : Nat} (h : n < 0x10000) :
    Json.hex4? (n / 4096).digitChar (n / 256 % 16).digitChar (n / 16 % 16).digitChar
      (n % 16).digitChar = some n := by
  simp only [Json.hex4?, Text.hexDigit?_digitChar (show n / 4096 < 16 by omega),
    Text.hexDigit?_digitChar (show n / 256 % 16 < 16 by omega),
    Text.hexDigit?_digitChar (show n / 16 % 16 < 16 by omega),
    Text.hexDigit?_digitChar (show n % 16 < 16 by omega), Option.bind_eq_bind, Option.bind_some,
    Option.pure_def, Option.some.injEq]
  omega

end MinuteBook
