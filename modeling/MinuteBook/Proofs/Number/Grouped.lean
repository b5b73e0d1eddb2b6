import Mathlib.Data.List.Basic
import Mathlib.Tactic.Ring
import MinuteBook.Number.Grouped
import MinuteBook.Proofs.Text.Numerals

/-!
# Amounts in print

What is rounded is a nearest number (`nearestEven_roundQuotient`), so the hundredths of an amount
vanish exactly if the amount is half a hundredth at most (`Double.hundredths_eq_zero_iff`). In
print a comma stands before every third digit from the right (`inGroups_groupThousands`), and the
digits are those of the number: some digit other than zero is to be seen exactly if there is
something to show (`shows_hundredthsText_iff`).
-/

namespace MinuteBook

/-! ## Rounding -/

/-- A natural number nearest to a quotient, and an even one if two are as near. -/
structure NearestEven (num den k : Nat) : Prop where
  above : 2 * num ≤ (2 * k + 1) * den
  below : 2 * k * den ≤ 2 * num + den
  tie : 2 * num = (2 * k + 1) * den ∨ 2 * k * den = 2 * num + den → k % 2 = 0

theorem nearestEven_roundQuotient (num : Nat) {den : Nat} (positive : 0 < den) :
    NearestEven num den (roundQuotient num den) := by
  have split := Nat.div_add_mod num den
  have rest := Nat.mod_lt num positive
  unfold roundQuotient
  simp only [Bool.or_eq_true, Bool.and_eq_true, decide_eq_true_eq, beq_iff_eq]
  generalize num / den = q at split ⊢
  generalize num % den = r at split rest ⊢
  have twice : 2 * num = 2 * q * den + 2 * r := by
    rw [← split]
    ring
  have next : (2 * q + 1) * den = 2 * q * den + den := Nat.succ_mul _ _
  have after : (2 * (q + 1) + 1) * den = 2 * q * den + 3 * den := by ring
  have last : 2 * (q + 1) * den = 2 * q * den + 2 * den := by ring
  split_ifs with down
  · constructor <;> omega
  · constructor <;> omega

/-- A whole number is not rounded. -/
theorem roundQuotient_mul (k : Nat) {den : Nat} (positive : 0 < den) :
    roundQuotient (k * den) den = k := by
  rw [roundQuotient, Nat.mul_div_cancel _ positive, Nat.mul_mod_left]
  simp [positive]

theorem NearestEven.eq_zero_iff {num den k : Nat} (h : NearestEven num den k) (positive : 0 < den) :
    k = 0 ↔ 2 * num ≤ den := by
  obtain ⟨above, below, tie⟩ := h
  constructor
  · rintro rfl
    omega
  · intro half
    have small : k * den ≤ 1 * den := by
      rw [Nat.mul_assoc] at below
      omega
    rcases Nat.le_one_iff_eq_zero_or_eq_one.1 (Nat.le_of_mul_le_mul_right small positive) with
      rfl | rfl
    · rfl
    · omega

namespace Double

theorem nearestEven_hundredths (units : Nat) :
    NearestEven (100 * units) one (hundredths units) :=
  nearestEven_roundQuotient _ one_pos

theorem hundredths_eq_zero_iff {units : Nat} : hundredths units = 0 ↔ 200 * units ≤ one := by
  rw [(nearestEven_hundredths units).eq_zero_iff one_pos]
  omega

theorem hundredths_whole (n : Nat) : hundredths (n * one) = 100 * n := by
  rw [hundredths, ← Nat.mul_assoc, roundQuotient_mul _ one_pos]

end Double

/-! ## Groups of three digits -/

/-- Digits in print, from the left: up to three of them, then groups of three behind commas. -/
inductive InGroups : List Char → List Char → Prop where
  | first {digits : List Char} : digits ≠ [] → digits.length ≤ 3 → InGroups digits digits
  | group {digits text : List Char} (a b c : Char) :
      InGroups digits text → InGroups (digits ++ [a, b, c]) (text ++ [',', a, b, c])

namespace InGroups

variable {digits text : List Char}

theorem mem_iff (h : InGroups digits text) {c : Char} (other : c ≠ ',') :
    c ∈ text ↔ c ∈ digits := by
  induction h with
  | first => exact Iff.rfl
  | group a b c' _ ih => simp [ih, other]

/-- Without its commas the text is the digits. -/
theorem filter_eq (h : InGroups digits text) {p : Char → Bool} (kept : ∀ c ∈ digits, p c = true)
    (comma : p ',' = false) : text.filter p = digits := by
  induction h with
  | first => exact List.filter_eq_self.2 kept
  | group a b c _ ih =>
      rw [List.forall_mem_append] at kept
      rw [List.filter_append, ih kept.1, List.filter_cons_of_neg (by simp [comma]),
        List.filter_eq_self.2 kept.2]

end InGroups

theorem inGroups_go (rs : List Char) (filled : rs ≠ []) :
    InGroups rs.reverse (groupThousands.go rs).reverse := by
  -- The loop begins at the last digit, so what it goes on with is the front of the text.
  fun_induction groupThousands.go rs with
  | case1 a b c d r ih =>
      have longer := (ih (by simp)).group c b a
      simpa using longer
  | case2 short few =>
      refine .first (by simpa using filled) ?_
      rw [List.length_reverse]
      rcases short with _ | ⟨a, _ | ⟨b, _ | ⟨c, _ | ⟨d, r⟩⟩⟩⟩
      · decide
      · simp
      · simp
      · simp
      · exact absurd rfl (few a b c d r)

theorem inGroups_groupThousands {digits : List Char} (filled : digits ≠ []) :
    InGroups digits (groupThousands digits) := by
  have reversed := inGroups_go digits.reverse (by simpa using filled)
  rwa [List.reverse_reverse] at reversed

/-! ## Two places after the point -/

/-- There is a digit other than zero in a text. -/
def Shows (s : List Char) : Prop := ∃ c ∈ s, c.isDigit = true ∧ c ≠ '0'

@[simp] theorem not_shows_nil : ¬ Shows [] := by
  rintro ⟨c, inside, -⟩
  exact List.not_mem_nil inside

@[simp] theorem shows_cons_iff {c : Char} {s : List Char} :
    Shows (c :: s) ↔ (c.isDigit = true ∧ c ≠ '0') ∨ Shows s := by
  simp [Shows]

@[simp] theorem shows_append_iff {s t : List Char} : Shows (s ++ t) ↔ Shows s ∨ Shows t := by
  simp only [Shows, List.mem_append, or_and_right, exists_or]

@[simp] theorem shows_reverse_iff {s : List Char} : Shows s.reverse ↔ Shows s := by
  simp [Shows]

/-- What is dropped from the front of a text shows nothing if every dropped character shows
nothing. -/
theorem shows_dropWhile_iff {s : List Char} {p : Char → Bool}
    (empty : ∀ c, p c = true → c.isDigit = true → c = '0') : Shows (s.dropWhile p) ↔ Shows s := by
  induction s with
  | nil => rfl
  | cons c s ih =>
      by_cases dropped : p c = true
      · rw [List.dropWhile_cons_of_pos dropped, ih, shows_cons_iff, or_iff_right]
        exact fun shown => shown.2 (empty c dropped shown.1)
      · rw [List.dropWhile_cons_of_neg dropped]

theorem InGroups.shows_iff {digits text : List Char} (h : InGroups digits text) :
    Shows text ↔ Shows digits := by
  refine exists_congr fun c => ?_
  rw [and_congr_left_iff]
  rintro ⟨digit, -⟩
  exact h.mem_iff fun same => absurd (same ▸ digit) (by decide)

theorem shows_natDigits_iff {n : Nat} : Shows (Text.natDigits n) ↔ n ≠ 0 := by
  cases digits : Text.natDigits n with
  | nil => exact absurd digits (Text.natDigits_ne_nil n)
  | cons c r =>
      constructor
      · rintro shown rfl
        obtain ⟨rfl, rfl⟩ := List.cons.inj digits
        simp at shown
      · intro positive
        have digit : c.isDigit = true :=
          Text.isDigit_of_mem_natDigits (n := n) (digits ▸ List.mem_cons_self)
        refine shows_cons_iff.2 (.inl ⟨digit, ?_⟩)
        rintro rfl
        exact positive (Text.natDigits_eq_zero_of_head digits).1

theorem inGroups_natDigits (n : Nat) :
    InGroups (Text.natDigits n) (groupThousands (Text.natDigits n)) :=
  inGroups_groupThousands (Text.natDigits_ne_nil n)

/-- A number of hundredths shows a digit other than zero unless it is zero. -/
theorem shows_hundredthsText_iff {n : Nat} : Shows (hundredthsText n) ↔ n ≠ 0 := by
  have cents : Shows (if (Text.natDigits (n % 100)).length < 2 then
      '0' :: Text.natDigits (n % 100) else Text.natDigits (n % 100)) ↔ n % 100 ≠ 0 := by
    split <;> simp [shows_natDigits_iff]
  have whole : Shows (groupThousands (Text.natDigits (n / 100))) ↔ n / 100 ≠ 0 :=
    (inGroups_natDigits _).shows_iff.trans shows_natDigits_iff
  rw [hundredthsText, shows_append_iff, shows_cons_iff, cents, whole]
  have point : ¬ ('.'.isDigit = true ∧ '.' ≠ '0') := by decide
  rw [or_iff_right point]
  omega

theorem mem_hundredthsText {n : Nat} {c : Char} (h : c ∈ hundredthsText n) :
    c.isDigit = true ∨ c = ',' ∨ c = '.' := by
  rw [hundredthsText, List.mem_append, List.mem_cons] at h
  rcases h with whole | rfl | cents
  · by_cases comma : c = ','
    · exact .inr (.inl comma)
    · exact .inl (Text.isDigit_of_mem_natDigits (((inGroups_natDigits _).mem_iff comma).1 whole))
  · exact .inr (.inr rfl)
  · left
    split at cents
    · rcases List.mem_cons.1 cents with rfl | digit
      · rfl
      · exact Text.isDigit_of_mem_natDigits digit
    · exact Text.isDigit_of_mem_natDigits cents

/-- A whole number of ones has two zeros after the point. -/
theorem hundredthsText_whole (n : Nat) :
    hundredthsText (100 * n) = groupThousands (Text.natDigits n) ++ ['.', '0', '0'] := by
  rw [hundredthsText, Nat.mul_mod_right, Nat.mul_div_cancel_left _ (by decide)]
  rfl

end MinuteBook
