import MinuteBook.Proofs.Calendar.Iso

/-!
# The order of dates

One date is before another exactly if its text is the smaller one, character by character
(`Date.before_iff_iso_lt`), and exactly if fewer days lie before it
(`Date.before_iff_dayNumber_lt`). The first holds because the digits of a fixed width are ordered
like the numbers (`padded_lt_iff`), the second because each month and each year begins where the one
before it ends.
-/

namespace MinuteBook

/-! ## Texts of the same length -/

/-- Behind fronts of the same length what follows counts only if the fronts are the same. -/
theorem append_lt_append_iff {a b : List Char} (same : a.length = b.length) (x y : List Char) :
    a ++ x < b ++ y ↔ a < b ∨ a = b ∧ x < y := by
  induction a generalizing b with
  | nil =>
      obtain rfl := List.length_eq_zero_iff.1 same.symm
      simp
  | cons c a ih =>
      cases b with
      | nil => exact absurd same (by simp)
      | cons d b =>
          rw [List.cons_append, List.cons_append, List.cons_lt_cons_iff, List.cons_lt_cons_iff,
            ih (Nat.succ.inj same), List.cons.injEq, and_or_left, or_assoc, and_assoc]

theorem digitChar_lt_iff {m n : Nat} (hm : m < 10) (hn : n < 10) :
    m.digitChar < n.digitChar ↔ m < n := by
  have order : m.digitChar < n.digitChar ↔ m.digitChar.toNat < n.digitChar.toNat :=
    Char.lt_def.trans UInt32.lt_iff_toNat_lt
  rw [order, Nat.toNat_digitChar_of_lt_ten hm, Nat.toNat_digitChar_of_lt_ten hn]
  omega

/-! ## Digits of a fixed width -/

section padded

variable {w m n : Nat}

theorem padded_inj : padded w m = padded w n ↔ m = n := by
  constructor
  · intro same
    rw [← ofDigitChars_padded w m, same, ofDigitChars_padded]
  · rintro rfl
    rfl

theorem padded_one (h : n < 10) : padded 1 n = [n.digitChar] := by
  rw [padded, Text.natDigits, Nat.toDigits_of_lt_base h]
  rfl

/-- The last of the digits. -/
theorem padded_succ (filled : 0 < w) (n : Nat) :
    padded (w + 1) n = padded w (n / 10) ++ [(n % 10).digitChar] := by
  have digits : Text.natDigits n =
      if n < 10 then [n.digitChar] else Text.natDigits (n / 10) ++ [(n % 10).digitChar] :=
    Nat.toDigits_eq_if (by decide)
  by_cases small : n < 10
  · obtain ⟨w, rfl⟩ := Nat.exists_eq_add_of_lt filled
    have zero : Text.natDigits (n / 10) = ['0'] := by
      rw [Nat.div_eq_of_lt small]
      rfl
    rw [if_pos small] at digits
    rw [padded, padded, digits, zero, Nat.mod_eq_of_lt small]
    simp [List.replicate_succ']
  · rw [if_neg small] at digits
    rw [padded, padded, digits, List.length_append, List.length_singleton, Nat.add_sub_add_right,
      List.append_assoc]

/-- Digits of a fixed width are ordered like the numbers. -/
theorem padded_lt_iff (filled : 0 < w) (hm : m < 10 ^ w) (hn : n < 10 ^ w) :
    padded w m < padded w n ↔ m < n := by
  induction w generalizing m n with
  | zero => exact absurd filled (Nat.lt_irrefl 0)
  | succ w ih =>
      rcases Nat.eq_zero_or_pos w with rfl | filled
      · rw [padded_one hm, padded_one hn, List.cons_lt_cons_iff, digitChar_lt_iff hm hn]
        simp
      · rw [Nat.pow_succ] at hm hn
        have hm' : m / 10 < 10 ^ w := Nat.div_lt_of_lt_mul (by omega)
        have hn' : n / 10 < 10 ^ w := Nat.div_lt_of_lt_mul (by omega)
        have width : (padded w (m / 10)).length = (padded w (n / 10)).length := by
          rw [length_padded filled hm', length_padded filled hn']
        rw [padded_succ filled, padded_succ filled, append_lt_append_iff width, ih filled hm' hn',
          padded_inj, List.cons_lt_cons_iff,
          digitChar_lt_iff (Nat.mod_lt m (by decide)) (Nat.mod_lt n (by decide))]
        simp only [List.not_lt_nil, and_false, or_false]
        omega

end padded

namespace Date

/-! ## The order of texts -/

theorem before_iff (d e : Date) : d.before e = true ↔ d.year < e.year ∨ d.year = e.year ∧
    (d.month < e.month ∨ d.month = e.month ∧ d.day < e.day) := by
  simp [before]

/-- Dates are ordered like their texts. -/
theorem before_iff_iso_lt (d e : Date) : d.before e = true ↔ d.iso < e.iso := by
  obtain ⟨year, month, day⟩ := d.fits
  obtain ⟨year', month', day'⟩ := e.fits
  have first : (padded 4 d.year).length = (padded 4 e.year).length := by
    rw [length_padded (by decide) year, length_padded (by decide) year']
  have second : (padded 2 d.month).length = (padded 2 e.month).length := by
    rw [length_padded (by decide) month, length_padded (by decide) month']
  have chars : d.isoChars < e.isoChars ↔ d.year < e.year ∨ d.year = e.year ∧
      (d.month < e.month ∨ d.month = e.month ∧ d.day < e.day) := by
    rw [isoChars, isoChars, List.append_assoc, List.append_assoc, append_lt_append_iff first,
      padded_lt_iff (by decide) year year', padded_inj, List.cons_append, List.cons_append,
      List.cons_lt_cons_iff, append_lt_append_iff second,
      padded_lt_iff (by decide) month month', padded_inj, List.cons_lt_cons_iff,
      padded_lt_iff (by decide) day day']
    simp
  rw [before_iff, iso, iso, String.lt_iff, String.toList_ofList, String.toList_ofList, chars]

/-! ## Counting days -/

/-- The days of the months before one. -/
def daysBeforeMonth (year month : Nat) : Nat := ((monthLengths year).take (month - 1)).sum

theorem dayNumber_eq (d : Date) :
    d.dayNumber = daysBeforeYear d.year + daysBeforeMonth d.year d.month + (d.day - 1) := by
  rw [dayNumber, daysBeforeMonth, List.sum_eq_foldl]

/-- Where each thing begins at the end of the one before it, a later one begins at the end of an
earlier one or behind it. -/
theorem end_le_of_lt {start length : Nat → Nat} (next : ∀ n, 1 ≤ n → start (n + 1) =
    start n + length n) {m n : Nat} (first : 1 ≤ m) (h : m < n) : start m + length m ≤ start n := by
  induction h with
  | refl => exact Nat.le_of_eq (next m first).symm
  | @step n later ih =>
      rw [next n (Nat.le_trans first (Nat.le_of_lt later))]
      omega

theorem isLeap_iff (year : Nat) :
    isLeap year = true ↔ year % 4 = 0 ∧ (year % 100 ≠ 0 ∨ year % 400 = 0) := by
  simp [isLeap]

theorem daysBeforeYear_succ (year : Nat) (first : 1 ≤ year) :
    daysBeforeYear (year + 1) = daysBeforeYear year + yearLength year := by
  obtain ⟨y, rfl⟩ := Nat.exists_eq_add_of_le' first
  -- With each multiple of `k` that a year reaches, the quotient by `k` goes up by one.
  have tick (k : Nat) : (y + 1) / k = y / k + if (y + 1) % k = 0 then 1 else 0 := by
    simp only [Nat.succ_div, Nat.dvd_iff_mod_eq_zero]
  have centuries : y / 100 ≤ y / 4 := Nat.div_le_div_left (by decide) (by decide)
  have nested : ((y + 1) % 400 = 0 → (y + 1) % 100 = 0) ∧
      ((y + 1) % 100 = 0 → (y + 1) % 4 = 0) := by
    omega
  simp only [daysBeforeYear, yearLength, isLeap_iff, Nat.add_sub_cancel, tick]
  generalize (y + 1) % 4 = a, (y + 1) % 100 = b, (y + 1) % 400 = c at nested ⊢
  split <;> split <;> split <;> split <;> omega

theorem daysBeforeMonth_succ (year month : Nat) (first : 1 ≤ month) :
    daysBeforeMonth year (month + 1) =
      daysBeforeMonth year month + (monthLengths year)[month - 1]?.getD 0 := by
  obtain ⟨month, rfl⟩ := Nat.exists_eq_add_of_le' first
  rw [daysBeforeMonth, daysBeforeMonth, Nat.add_sub_cancel, Nat.add_sub_cancel,
    List.take_add_one, List.sum_append]
  cases (monthLengths year)[month]? <;> simp

theorem daysBeforeMonth_thirteen (year : Nat) : daysBeforeMonth year 13 = yearLength year := by
  rw [daysBeforeMonth, monthLengths, yearLength]
  cases isLeap year <;> rfl

/-- A day lies in its month, and so in its year. -/
theorem dayNumber_lt_yearEnd (d : Date) :
    d.dayNumber < daysBeforeYear d.year + daysBeforeMonth d.year d.month +
        (monthLengths d.year)[d.month - 1]?.getD 0 ∧
      d.dayNumber < daysBeforeYear d.year + yearLength d.year := by
  obtain ⟨-, month, first, last⟩ := d.bounds
  have within := end_le_of_lt (daysBeforeMonth_succ d.year) month
    (Nat.lt_succ_of_le d.month_le)
  rw [daysBeforeMonth_thirteen] at within
  rw [dayNumber_eq]
  omega

theorem dayNumber_lt_of_before {d e : Date} (h : d.before e = true) :
    d.dayNumber < e.dayNumber := by
  obtain ⟨⟨year, -⟩, month, first, -⟩ := d.bounds
  obtain ⟨inMonth, inYear⟩ := d.dayNumber_lt_yearEnd
  have number := e.dayNumber_eq
  rcases (before_iff d e).1 h with years | ⟨years, months | ⟨months, days⟩⟩
  · have later := end_le_of_lt daysBeforeYear_succ year years
    omega
  · have later := end_le_of_lt (daysBeforeMonth_succ d.year) month months
    rw [← years] at number
    omega
  · rw [d.dayNumber_eq, number, years, months]
    omega

/-- Dates are ordered like the numbers of days before them. -/
theorem before_iff_dayNumber_lt (d e : Date) : d.before e = true ↔ d.dayNumber < e.dayNumber := by
  refine ⟨dayNumber_lt_of_before, fun fewer => ?_⟩
  by_cases later : e.before d = true
  · exact absurd (dayNumber_lt_of_before later) (Nat.lt_asymm fewer)
  · have number := d.dayNumber_eq
    have number' := e.dayNumber_eq
    rw [before_iff] at later ⊢
    by_cases same : d.year = e.year ∧ d.month = e.month
    · rw [same.1, same.2] at number
      omega
    · omega

end Date

end MinuteBook
