import Mathlib.Algebra.Order.Ring.Nat
import MinuteBook.Number.Numeral
import MinuteBook.Proofs.Expression.Front
import MinuteBook.Proofs.Number.Grouped

/-!
# Whole numbers that are doubles

Up to `2 ^ 53` every whole number is a double (`Double.ofRatio_whole`), and its decimal text is read
as just that double (`Numeral.double?_int`). A double that equals a whole number is known to be one,
zero with either sign (`Double.whole?_of_equalsInt`).
-/

namespace MinuteBook

namespace Double

variable {negative : Bool} {n : Nat}

/-- A number up to `2 ^ 53` stands on the grid of doubles, however many binary zeros follow it. -/
theorem spacing_dvd {m : Nat} (small : m ≤ 2 ^ 53) (k : Nat) :
    spacing (m * 2 ^ k) ∣ m * 2 ^ k := by
  unfold spacing
  split
  · exact one_dvd _
  · rename_i large
    -- Below the bound there are 53 places at most; the bound has one more, but is a power of two.
    rcases Nat.lt_or_eq_of_le small with below | rfl
    · have positive : m * 2 ^ k ≠ 0 := by
        intro zero
        rw [zero] at large
        exact large (by decide)
      have bound : m * 2 ^ k < 2 ^ (53 + k) := by
        rw [Nat.pow_add]
        exact Nat.mul_lt_mul_of_pos_right below (Nat.two_pow_pos k)
      have place := (Nat.log2_lt positive).2 bound
      exact Nat.dvd_trans (Nat.pow_dvd_pow 2 (by omega)) (Nat.dvd_mul_left _ _)
    · rw [← Nat.pow_add, Nat.log2_two_pow]
      exact Nat.pow_dvd_pow 2 (by omega)

theorem exists_one_eq : ∃ k, one = 2 ^ k := by
  unfold one
  generalize 1074 = k
  exact ⟨k, rfl⟩

theorem mul_one_lt_limit (small : n ≤ 2 ^ 53) : n * one < limit := by
  unfold limit
  have inside : 53 < 1024 := by decide
  generalize 1024 = k at inside ⊢
  have room : 2 ^ 53 < Nat.pow 2 k := Nat.pow_lt_pow_right (by decide) inside
  exact Nat.mul_lt_mul_of_pos_right (Nat.lt_of_le_of_lt small room) one_pos

/-- A whole number up to `2 ^ 53` is a double. -/
theorem ofRatio_whole (small : n ≤ 2 ^ 53) :
    ofRatio negative n 1 = .finite negative (n * one) := by
  obtain ⟨steps, whole⟩ : spacing (n * one) ∣ n * one := by
    obtain ⟨k, power⟩ := exists_one_eq
    rw [power]
    exact spacing_dvd small k
  rw [ofRatio]
  simp only [Nat.div_one, Nat.one_mul]
  generalize spacing (n * one) = step at whole ⊢
  have unrounded : roundQuotient (n * one) step * step = n * one := by
    rw [whole, Nat.mul_comm step]
    rcases Nat.eq_zero_or_pos step with rfl | positive
    · rw [Nat.mul_zero, Nat.mul_zero]
    · rw [roundQuotient_mul _ positive]
  rw [unrounded, if_pos (mul_one_lt_limit small)]

/-- A double that equals a whole number has as many ones, and its sign unless both are zero. -/
theorem eq_of_equalsInt {units : Nat} {i : Int}
    (h : (Double.finite negative units).equalsInt i = true) :
    units = i.natAbs * one ∧ signed negative i.natAbs = i := by
  have same : signed negative units = i * one := eq_of_beq h
  have magnitude (k : Nat) : (signed negative k).natAbs = k := by
    cases negative <;> simp [signed]
  have ones : units = i.natAbs * one := by
    rw [← magnitude units, same, Int.natAbs_mul, Int.natAbs_natCast]
  have scaled : signed negative (i.natAbs * one) = signed negative i.natAbs * one := by
    cases negative <;> simp [signed]
  refine ⟨ones, Int.eq_of_mul_eq_mul_right (Int.natCast_ne_zero.2 (Nat.ne_of_gt one_pos)) ?_⟩
  rw [← scaled, ← ones, same]

/-- A double that equals a whole number is known to be that number. -/
theorem whole?_of_equalsInt {x : Double} {i : Int} (h : x.equalsInt i = true) :
    x.whole? = some i := by
  cases x with
  | finite negative units =>
      obtain ⟨ones, sign⟩ := eq_of_equalsInt h
      have whole : units % one = 0 := by rw [ones, Nat.mul_mod_left]
      rw [whole?, if_pos whole, ones, Nat.mul_div_cancel _ one_pos, sign]
  | _ => cases h

end Double

namespace Text

theorem digit?_of_isDigit {c : Char} (h : c.isDigit = true) : digit? c = some (c.toNat - 48) := by
  obtain ⟨low, high⟩ := toNat_of_isDigit h
  have ascii : (decide (0x30 ≤ c.toNat) && decide (c.toNat < 0x30 + 10)) = true := by
    rw [decide_eq_true low, decide_eq_true (Nat.lt_succ_of_le high), Bool.and_self]
  have first : (zeroDigits.find? fun z => z ≤ c.toNat && c.toNat < z + 10) = some 0x30 :=
    List.find?_cons_of_pos ascii
  rw [digit?, first, Option.map_some]

theorem spanDigits_of_isDigit {ds : List Char} (digits : ∀ c ∈ ds, c.isDigit = true) :
    spanDigits ds = (Json.digitsOf ds, []) := by
  induction ds with
  | nil => rfl
  | cons c ds ih =>
      rw [List.forall_mem_cons] at digits
      rw [spanDigits, digit?_of_isDigit digits.1]
      simp only [ih digits.2]
      rfl

theorem strip_of_visible {s : List Char} (visible : ∀ c ∈ s, isBlank c = false) : strip s = s := by
  have trimmed : Trimmed s := by
    refine ⟨fun c first => visible c ?_, fun c last => visible c ?_⟩
    · exact List.mem_of_head? first
    · exact List.mem_of_getLast? last
  exact trimmed.strip_eq

theorem toLower_of_isDigit {c : Char} (h : c.isDigit = true) : c.toLower = c := by
  have small := (toNat_of_isDigit h).2
  refine dif_neg fun upper => ?_
  have letter : 65 ≤ c.toNat := upper.1
  omega

end Text

namespace Numeral

/-- No number but zero has a zero in front. -/
theorem dropWhile_digitsOf {n : Nat} (positive : n ≠ 0) :
    (Json.digitsOf (Text.natDigits n)).dropWhile (· == 0) = Json.digitsOf (Text.natDigits n) := by
  cases digits : Text.natDigits n with
  | nil => rfl
  | cons c r =>
      have digit : c.isDigit = true :=
        Text.isDigit_of_mem_natDigits (n := n) (digits ▸ List.mem_cons_self)
      refine List.dropWhile_cons_of_neg ?_
      intro zero
      have code : c.toNat = '0'.toNat := by
        have least := (Text.toNat_of_isDigit digit).1
        have most : c.toNat ≤ 48 := Nat.sub_eq_zero_iff_le.1 (eq_of_beq zero)
        exact Nat.le_antisymm most least
      obtain rfl := Char.toNat_inj.1 code
      exact positive (Text.natDigits_eq_zero_of_head digits).1

/-- The digits of a number are read as the double that the number is. -/
theorem ofDecimal_natDigits (negative : Bool) {n : Nat} (positive : n ≠ 0) (small : n ≤ 2 ^ 53) :
    Double.ofDecimal negative (Json.digitsOf (Text.natDigits n)) 0 =
      .finite negative (n * Double.one) := by
  have short : (Text.natDigits n).length ≤ 16 :=
    (Nat.length_toDigits_le_iff (by decide) (by decide)).2 (Nat.lt_of_le_of_lt small (by decide))
  have filled : (Json.digitsOf (Text.natDigits n)).isEmpty = false := by
    simp [Json.digitsOf, Text.natDigits_ne_nil]
  have length : (Json.digitsOf (Text.natDigits n)).length = (Text.natDigits n).length :=
    List.length_map _
  have value := Text.ofDigits_natDigits n
  rw [Double.ofDecimal]
  simp only [dropWhile_digitsOf positive, filled, length, Bool.false_or, decide_eq_true_eq]
  rw [if_neg (by omega), if_neg (by omega), value]
  have tens : Nat.pow 10 (0 : Int).toNat = 1 := rfl
  have tenths : Nat.pow 10 (-(0 : Int)).toNat = 1 := rfl
  rw [tens, tenths, Nat.mul_one, Double.ofRatio_whole small]

/-- Digits without a sign are digits before the point. -/
theorem decimal?_of_isDigit (negative : Bool) {ds : List Char} (filled : ds ≠ [])
    (digits : ∀ c ∈ ds, c.isDigit = true) :
    decimal? negative ds = some (.ofDecimal negative (Json.digitsOf ds) 0) := by
  have some_digit : (Json.digitsOf ds).isEmpty = false := by simp [Json.digitsOf, filled]
  rw [decimal?, Text.spanDigits_of_isDigit digits]
  simp [some_digit, exponent?]

theorem sign_of_isDigit {ds : List Char} (digits : ∀ c ∈ ds, c.isDigit = true) :
    sign ds = (false, ds) := by
  unfold sign
  split
  · exact absurd (digits _ List.mem_cons_self) (by decide)
  · exact absurd (digits _ List.mem_cons_self) (by decide)
  · rfl

/-- Digits are no word for an infinity or NaN. -/
theorem double?_of_isDigit {s : String} {negative : Bool} {ds : List Char} (filled : ds ≠ [])
    (digits : ∀ c ∈ ds, c.isDigit = true) (signed : sign (Text.strip s.toList) = (negative, ds)) :
    double? s = some (.ofDecimal negative (Json.digitsOf ds) 0) := by
  have lower : ds.map Char.toLower = ds :=
    (List.map_congr_left fun c inside => Text.toLower_of_isDigit (digits c inside)).trans
      (List.map_id' ds)
  have other {word : String} {c : Char} (first : c ∈ word.toList) (letter : c.isDigit = false) :
      String.ofList ds ≠ word := by
    rintro rfl
    rw [String.toList_ofList] at first
    exact absurd (digits c first) (by simp [letter])
  rw [double?, signed]
  simp only [lower]
  split
  · rename_i same
    exact absurd same (other (c := 'i') (by decide) (by decide))
  · rename_i same
    exact absurd same (other (c := 'i') (by decide) (by decide))
  · rename_i same
    exact absurd same (other (c := 'a') (by decide) (by decide))
  · exact decimal?_of_isDigit negative filled digits

/-- The decimal text of a whole number up to `2 ^ 53` is read as that number. -/
theorem double?_int {i : Int} (small : i.natAbs ≤ 2 ^ 53) :
    double? (Text.int i) = some (.finite (i < 0) (i.natAbs * Double.one)) := by
  have digits : ∀ c ∈ Text.natDigits i.natAbs, c.isDigit = true :=
    fun c => Text.isDigit_of_mem_natDigits
  have filled := Text.natDigits_ne_nil i.natAbs
  have visible : ∀ c ∈ Text.natDigits i.natAbs, Text.isBlank c = false :=
    fun c inside => Text.not_isBlank_of_isDigit (digits c inside)
  by_cases negative : i < 0
  · have text : (Text.int i).toList = '-' :: Text.natDigits i.natAbs := by
      rw [Text.int, if_pos negative, String.toList_ofList]
    have signed : sign (Text.strip (Text.int i).toList) = (true, Text.natDigits i.natAbs) := by
      rw [text, Text.strip_of_visible (List.forall_mem_cons.2 ⟨by decide, visible⟩)]
      rfl
    rw [double?_of_isDigit filled digits signed, ofDecimal_natDigits true (by omega) small,
      decide_eq_true negative]
  · have text : (Text.int i).toList = Text.natDigits i.natAbs := by
      rw [Text.int, if_neg negative, String.toList_ofList]
    have signed : sign (Text.strip (Text.int i).toList) = (false, Text.natDigits i.natAbs) := by
      rw [text, Text.strip_of_visible visible, sign_of_isDigit digits]
    rw [double?_of_isDigit filled digits signed, decide_eq_false negative]
    by_cases zero : i.natAbs = 0
    · rw [zero, Nat.zero_mul]
      rfl
    · rw [ofDecimal_natDigits false zero small]

end Numeral

end MinuteBook
