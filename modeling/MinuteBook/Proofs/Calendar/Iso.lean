import Mathlib.Algebra.Group.Nat.Defs
import Mathlib.Algebra.GroupWithZero.Nat
import MinuteBook.Calendar.Iso
import MinuteBook.Proofs.Text.Numerals

/-!
# ISO dates are read back

Digits of a fixed width are read back (`fixedDigits?_padded`), and so is a date from its extended
form, whatever its year (`Date.ofIso?_isoChars`). The reader of dates looks at texts of at most ten
characters only (`Date.length_le_of_ofIso?`).
-/

namespace MinuteBook

/-! ## Digits of a fixed width -/

section padded

variable {w n : Nat}

/-- A number of few enough digits takes the whole width. -/
theorem length_padded (filled : 0 < w) (h : n < 10 ^ w) : (padded w n).length = w := by
  have short : (Text.natDigits n).length ≤ w :=
    (Nat.length_toDigits_le_iff (by decide) filled).2 h
  rw [padded, List.length_append, List.length_replicate]
  omega

theorem isDigit_of_mem_padded {c : Char} (h : c ∈ padded w n) : c.isDigit = true := by
  rcases List.mem_append.1 h with zero | digit
  · obtain rfl := List.eq_of_mem_replicate zero
    rfl
  · exact Text.isDigit_of_mem_natDigits digit

theorem padded_ne_nil (w n : Nat) : padded w n ≠ [] :=
  List.append_ne_nil_of_right_ne_nil _ (Text.natDigits_ne_nil n)

theorem isDigit_head_padded {r : List Char} {c : Char} (h : (padded w n ++ r).head? = some c) :
    c.isDigit = true := by
  rw [List.head?_append, Option.or_eq_some_iff] at h
  rcases h with first | ⟨none, -⟩
  · exact isDigit_of_mem_padded (List.mem_of_mem_head? first)
  · exact absurd (List.head?_eq_none_iff.1 none) (padded_ne_nil w n)

/-- Zeros in front make no difference to the number that digits spell. -/
theorem ofDigitChars_padded (w n : Nat) : Nat.ofDigitChars 10 (padded w n) 0 = n := by
  rw [padded, Nat.ofDigitChars_append, Nat.ofDigitChars_replicate_zero, Nat.mul_zero]
  exact Nat.ofDigitChars_ten_toDigits

end padded

namespace Date

theorem asciiDigit?_of_isDigit {c : Char} (h : c.isDigit = true) :
    asciiDigit? c = some (c.toNat - 48) :=
  if_pos h

theorem go_digits {ds : List Char} (digits : ∀ c ∈ ds, c.isDigit = true) (acc : Nat)
    (r : List Char) :
    fixedDigits?.go ds.length acc (ds ++ r) = some (Nat.ofDigitChars 10 ds acc, r) := by
  induction ds generalizing acc with
  | nil => rfl
  | cons c ds ih =>
      rw [List.forall_mem_cons] at digits
      rw [List.length_cons, List.cons_append, fixedDigits?.go, asciiDigit?_of_isDigit digits.1,
        Nat.ofDigitChars_cons]
      exact ih digits.2 _

/-- A number of few enough digits is read back, whatever stands behind it. -/
theorem fixedDigits?_padded {w n : Nat} (filled : 0 < w) (h : n < 10 ^ w) (r : List Char) :
    fixedDigits? w (padded w n ++ r) = some (n, r) := by
  have digits : ∀ c ∈ padded w n, c.isDigit = true := fun _ => isDigit_of_mem_padded
  have read := go_digits digits 0 r
  rwa [length_padded filled h, ofDigitChars_padded] at read

/-! ## The length of a text -/

theorem utf8Length_eq_sum (s : List Char) : utf8Length s = (s.map Char.utf8Size).sum := by
  rw [utf8Length, List.sum_eq_foldl, List.foldl_map]

/-- A text takes a byte for each character at least. -/
theorem length_le_utf8Length (s : List Char) : s.length ≤ utf8Length s := by
  rw [utf8Length_eq_sum]
  induction s with
  | nil => exact Nat.le_refl _
  | cons c s ih =>
      have positive : 0 < c.utf8Size := c.utf8Size_pos
      rw [List.length_cons, List.map_cons, List.sum_cons]
      omega

theorem utf8Size_of_isDigit {c : Char} (h : c.isDigit = true) : c.utf8Size = 1 := by
  simp only [Char.isDigit, Bool.and_eq_true, decide_eq_true_eq] at h
  exact Char.utf8Size_eq_one_iff.2 (UInt32.le_trans h.2 (by decide))

/-- A text of ASCII characters takes a byte for each. -/
theorem utf8Length_of_ascii {s : List Char} (h : ∀ c ∈ s, c.utf8Size = 1) :
    utf8Length s = s.length := by
  rw [utf8Length_eq_sum, List.map_congr_left h, List.map_const', List.sum_replicate_nat,
    Nat.mul_one]

/-- What is read as a date has ten characters at most. -/
theorem length_le_of_ofIso? {s : List Char} {d : Date} (h : ofIso? s = some d) : s.length ≤ 10 := by
  have bytes := length_le_utf8Length s
  unfold ofIso? at h
  simp only at h
  split at h
  · rename_i whole
    simp only [Bool.or_eq_true, decide_eq_true_eq] at whole
    omega
  · exact absurd h (by simp)

/-! ## The extended form -/

/-- What does not begin like a week is a month and a day. -/
theorem ofYearRest?_eq {year : Nat} {hyphens : Bool} {s : List Char}
    (other : ∀ c, s.head? = some c → c ≠ 'W') :
    ofYearRest? year hyphens s = (do
      let (month, r) ← fixedDigits? 2 s
      let (day, _) ← fixedDigits? 2 (← hyphen? hyphens r)
      ofDay? year month day) := by
  unfold ofYearRest?
  split
  · exact absurd rfl (other 'W' rfl)
  · rfl

section

variable (d : Date)

theorem bounds : (1 ≤ d.year ∧ d.year ≤ 9999) ∧ 1 ≤ d.month ∧ 1 ≤ d.day ∧
    d.day ≤ (monthLengths d.year)[d.month - 1]?.getD 0 := by
  have exists_day := d.exists_day
  simp only [isDay, Bool.and_eq_true, decide_eq_true_eq, and_assoc] at exists_day ⊢
  exact exists_day

theorem month_le : d.month ≤ 12 := by
  obtain ⟨-, -, first, last⟩ := d.bounds
  refine Nat.le_of_not_lt fun late => ?_
  have twelve : (monthLengths d.year).length = 12 := rfl
  rw [List.getElem?_eq_none (by omega)] at last
  exact absurd (Nat.le_trans first last) (by decide)

theorem day_le : d.day ≤ 31 := by
  obtain ⟨-, -, first, last⟩ := d.bounds
  refine Nat.le_trans last ?_
  cases found : (monthLengths d.year)[d.month - 1]? with
  | none => exact Nat.zero_le _
  | some length =>
      have lengths : ∀ n ∈ monthLengths d.year, n ≤ 31 := by
        rw [monthLengths]
        cases isLeap d.year <;> decide
      exact lengths length (List.mem_of_getElem? found)

/-- The parts of a date fit into the places that its text has for them. -/
theorem fits : d.year < 10 ^ 4 ∧ d.month < 10 ^ 2 ∧ d.day < 10 ^ 2 := by
  have year := d.bounds.1.2
  have month := d.month_le
  have day := d.day_le
  omega

theorem length_isoChars : d.isoChars.length = 10 := by
  obtain ⟨year, month, day⟩ := d.fits
  simp only [isoChars, List.length_append, List.length_cons, length_padded (by decide) year,
    length_padded (by decide) month, length_padded (by decide) day]

theorem isoChars_ne_nil : d.isoChars ≠ [] :=
  List.ne_nil_of_length_pos (by rw [length_isoChars]; decide)

variable {d} in
theorem isDigit_or_dash_of_mem_isoChars {c : Char} (h : c ∈ d.isoChars) :
    c.isDigit = true ∨ c = '-' := by
  simp only [isoChars, List.mem_append, List.mem_cons] at h
  rcases h with (year | dash | month) | dash | day
  · exact .inl (isDigit_of_mem_padded year)
  · exact .inr dash
  · exact .inl (isDigit_of_mem_padded month)
  · exact .inr dash
  · exact .inl (isDigit_of_mem_padded day)

theorem utf8Length_isoChars : utf8Length d.isoChars = 10 := by
  rw [utf8Length_of_ascii, length_isoChars]
  intro c inside
  rcases isDigit_or_dash_of_mem_isoChars inside with digit | rfl
  · exact utf8Size_of_isDigit digit
  · rfl

/-- A date is read back from its text. -/
theorem ofIso?_isoChars : ofIso? d.isoChars = some d := by
  obtain ⟨year, month, day⟩ := d.fits
  have rest : ofYearRest? d.year true (padded 2 d.month ++ '-' :: padded 2 d.day) = some d := by
    have last := fixedDigits?_padded (by decide) day []
    rw [List.append_nil] at last
    rw [ofYearRest?_eq fun c first => ?_, fixedDigits?_padded (by decide) month]
    · change (do
        let (n, _) ← fixedDigits? 2 (padded 2 d.day)
        ofDay? d.year d.month n) = some d
      rw [last]
      exact dif_pos d.exists_day
    · rintro rfl
      exact absurd (isDigit_head_padded first) (by decide)
  rw [ofIso?, utf8Length_isoChars, isoChars, List.append_assoc,
    fixedDigits?_padded (by decide) year]
  exact rest

end

end Date

end MinuteBook
