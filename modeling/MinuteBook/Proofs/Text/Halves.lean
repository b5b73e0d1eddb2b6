import Mathlib.Data.List.Chain
import MinuteBook.Text.Surrogate

/-!
# Halves that stand side by side

A text may hold the two halves of a surrogate pair as two characters in a row. Written as code
units, they are the units of one character, and that is what is read back. `joinHalves` is the text
that comes back, and `Whole` singles out the texts that come back as they were.
-/

namespace MinuteBook.Text

/-- The code units of a character; a half that is kept on its own is its own unit. -/
def unitsOf (c : Char) : List Nat :=
  if keepsHalf c then [codePoint c]
  else if c.toNat < 0x10000 then [c.toNat]
  else [0xd800 + (c.toNat - 0x10000) / 0x400, 0xdc00 + (c.toNat - 0x10000) % 0x400]

/-- Two characters that are the halves of one pair. -/
def arePair (a b : Char) : Bool := isHighHalf (codePoint a) && isLowHalf (codePoint b)

/-- The text with the halves of each pair put together. -/
def joinHalves : List Char → List Char
  | a :: b :: r =>
    if arePair a b then ofCodePoint (joined (codePoint a) (codePoint b)) :: joinHalves r
    else a :: joinHalves (b :: r)
  | s => s

/-- A text in which no first half stands directly before a second half. -/
def Whole (s : String) : Prop := s.toList.IsChain fun a b => arePair a b = false

instance (s : String) : Decidable (Whole s) := inferInstanceAs (Decidable (List.IsChain _ _))

/-! ## Code units -/

/-- A character is never itself in the range of the halves. -/
theorem isHalf_toNat (c : Char) : isHalf c.toNat = false := by
  rw [Bool.eq_false_iff]
  intro h
  have half := isHalf_iff.1 h
  rcases c.valid with low | ⟨high, -⟩
  · have : c.toNat < 0xd800 := low
    omega
  · have : 0xdfff < c.toNat := high
    omega

theorem toNat_lt (c : Char) : c.toNat < 0x110000 := by
  rcases c.valid with low | ⟨-, high⟩
  · exact Nat.lt_trans low (by decide)
  · exact high

theorem ofCodePoint_toNat (c : Char) : ofCodePoint c.toNat = c := by
  rw [ofCodePoint, isHalf_toNat]
  exact Char.ofNat_toNat c

/-- The character that keeps the code point of a character is that character. -/
theorem ofCodePoint_codePoint (c : Char) : ofCodePoint (codePoint c) = c := by
  unfold codePoint
  split
  · rename_i h
    have half := isHalf_iff.1 h
    have back : c.toNat - halfShift + halfShift = c.toNat :=
      Nat.sub_add_cancel (by omega)
    rw [ofCodePoint, if_pos h, back]
    exact Char.ofNat_toNat c
  · exact ofCodePoint_toNat c

theorem isHalf_of_isHighHalf {n : Nat} (h : isHighHalf n = true) : isHalf n = true := by
  simp only [isHighHalf, Bool.and_eq_true, decide_eq_true_eq] at h
  exact isHalf_iff.2 (by omega)

theorem isHalf_of_isLowHalf {n : Nat} (h : isLowHalf n = true) : isHalf n = true := by
  simp only [isLowHalf, Bool.and_eq_true, decide_eq_true_eq] at h
  exact isHalf_iff.2 (by omega)

/-- Both characters of a pair are kept halves. -/
theorem keepsHalf_of_arePair {a b : Char} (h : arePair a b = true) :
    keepsHalf a = true ∧ keepsHalf b = true := by
  simp only [arePair, Bool.and_eq_true] at h
  exact ⟨isHalf_of_isHighHalf h.1, isHalf_of_isLowHalf h.2⟩

theorem unitsOf_half {c : Char} (h : keepsHalf c = true) : unitsOf c = [codePoint c] := if_pos h

/-- Small characters have their code point as their only unit. -/
theorem unitsOf_small {c : Char} (h : c.toNat < 0x10000) : unitsOf c = [c.toNat] := by
  have half : keepsHalf c = false := by
    rw [keepsHalf, codePoint_of_lt (by omega), isHalf_toNat]
  rw [unitsOf, half, if_neg Bool.false_ne_true, if_pos h]

/-- A character beyond the basic plane has the two units of which it is the pair. -/
theorem unitsOf_large {c : Char} (h : keepsHalf c = false) (large : 0x10000 ≤ c.toNat) :
    ∃ high low, unitsOf c = [high, low] ∧ isHighHalf high = true ∧ isLowHalf low = true ∧
      joined high low = c.toNat := by
  have bound := toNat_lt c
  have high : isHighHalf (0xd800 + (c.toNat - 0x10000) / 0x400) = true := by
    simp only [isHighHalf, Bool.and_eq_true, decide_eq_true_eq]
    omega
  have low : isLowHalf (0xdc00 + (c.toNat - 0x10000) % 0x400) = true := by
    simp only [isLowHalf, Bool.and_eq_true, decide_eq_true_eq]
    omega
  refine ⟨0xd800 + (c.toNat - 0x10000) / 0x400, 0xdc00 + (c.toNat - 0x10000) % 0x400, ?_, high, low,
    ?_⟩
  · simp only [unitsOf, h, Bool.false_eq_true, if_false, Nat.not_lt.2 large]
  · have split := Nat.div_add_mod (c.toNat - 0x10000) 0x400
    unfold joined
    omega

/-- The first unit of a character is a second half only if the character keeps that half. -/
theorem low_of_unitsOf {c : Char} {n : Nat} {r : List Nat} (h : unitsOf c = n :: r)
    (low : isLowHalf n = true) : keepsHalf c = true ∧ n = codePoint c ∧ r = [] := by
  cases half : keepsHalf c with
  | true =>
      rw [unitsOf_half half, List.cons.injEq] at h
      exact ⟨rfl, h.1.symm, h.2.symm⟩
  | false =>
      rcases Nat.lt_or_ge c.toNat 0x10000 with small | large
      · rw [unitsOf, half, if_neg Bool.false_ne_true, if_pos small, List.cons.injEq] at h
        have := isHalf_of_isLowHalf low
        rw [← h.1, isHalf_toNat] at this
        exact absurd this Bool.false_ne_true
      · obtain ⟨high, low', units, isHigh, -, -⟩ := unitsOf_large half large
        rw [units, List.cons.injEq] at h
        simp only [isHighHalf, isLowHalf, Bool.and_eq_true, decide_eq_true_eq] at isHigh low
        omega

theorem unitsOf_ne_nil (c : Char) : unitsOf c ≠ [] := by
  unfold unitsOf
  split
  · simp
  · split <;> simp

/-- Units that begin no pair are read on their own. -/
theorem ofUnits_cons {n : Nat} {ns : List Nat}
    (h : ∀ m r, ns = m :: r → (isHighHalf n && isLowHalf m) = false) :
    ofUnits (n :: ns) = ofCodePoint n :: ofUnits ns := by
  cases ns with
  | nil => rfl
  | cons m r => rw [ofUnits, h m r rfl, if_neg Bool.false_ne_true]

/-- A character that keeps no half is read back, whatever follows it. -/
theorem ofUnits_unitsOf_append {c : Char} (h : keepsHalf c = false) (ns : List Nat) :
    ofUnits (unitsOf c ++ ns) = c :: ofUnits ns := by
  rcases Nat.lt_or_ge c.toNat 0x10000 with small | large
  · have units : unitsOf c = [c.toNat] := by
      rw [unitsOf, h, if_neg Bool.false_ne_true, if_pos small]
    rw [units, List.singleton_append, ofUnits_cons, ofCodePoint_toNat]
    intro m r _
    rw [Bool.and_eq_false_iff, Bool.eq_false_iff]
    exact .inl fun high => by simpa [isHalf_toNat] using isHalf_of_isHighHalf high
  · obtain ⟨high, low, units, isHigh, isLow, pair⟩ := unitsOf_large h large
    rw [units, List.cons_append, List.singleton_append, ofUnits, isHigh, isLow, pair,
      ofCodePoint_toNat]
    rfl

/-- What the units of a text spell is the text with its pairs put together. -/
theorem ofUnits_flatMap_unitsOf (s : List Char) : ofUnits (s.flatMap unitsOf) = joinHalves s := by
  fun_induction joinHalves s with
  | case1 a b r pair ih =>
      obtain ⟨ha, hb⟩ := keepsHalf_of_arePair pair
      rw [List.flatMap_cons, List.flatMap_cons, unitsOf_half ha, unitsOf_half hb]
      simp only [arePair] at pair
      rw [List.singleton_append, List.singleton_append, ofUnits, if_pos pair, ih]
  | case2 a b r apart ih =>
      rw [List.flatMap_cons]
      cases half : keepsHalf a with
      | false => rw [ofUnits_unitsOf_append half, ih]
      | true =>
          rw [unitsOf_half half, List.singleton_append, ofUnits_cons, ofCodePoint_codePoint, ih]
          -- A second half next to `a` could only be `b` itself.
          intro m rest units
          rw [Bool.and_eq_false_iff, or_iff_not_imp_right]
          intro low
          rw [Bool.not_eq_false] at low
          obtain ⟨n, ns, hb⟩ := List.exists_cons_of_ne_nil (unitsOf_ne_nil b)
          rw [List.flatMap_cons, hb, List.cons_append, List.cons.injEq] at units
          obtain ⟨-, same, -⟩ := low_of_unitsOf hb (units.1 ▸ low)
          rw [← units.1, same] at low
          simpa [arePair, low] using apart
  | case3 s short =>
      cases s with
      | nil => rfl
      | cons a r =>
          cases r with
          | cons b r => exact absurd rfl (short a b r)
          | nil =>
              cases half : keepsHalf a with
              | false => simpa [ofUnits] using ofUnits_unitsOf_append half []
              | true => simp [unitsOf_half half, ofUnits, ofCodePoint_codePoint]

/-! ## Whole texts -/

theorem length_joinHalves_le (s : List Char) : (joinHalves s).length ≤ s.length := by
  fun_induction joinHalves s with
  | case1 a b r pair ih => simp only [List.length_cons]; omega
  | case2 a b r apart ih => simp only [List.length_cons] at ih ⊢; omega
  | case3 => exact Nat.le_refl _

/-- A text that does not come back as it was comes back shorter. -/
theorem length_joinHalves_lt {s : List Char} (h : joinHalves s ≠ s) :
    (joinHalves s).length < s.length := by
  fun_induction joinHalves s with
  | case1 a b r pair ih =>
      have short := length_joinHalves_le r
      simp only [List.length_cons]
      omega
  | case2 a b r apart ih =>
      have shorter := ih fun same => h (congrArg (a :: ·) same)
      simp only [List.length_cons] at shorter ⊢
      omega
  | case3 s short => exact absurd rfl h

/-- A text comes back as it was exactly if it is whole. -/
theorem joinHalves_eq_self_iff (s : List Char) :
    joinHalves s = s ↔ s.IsChain fun a b => arePair a b = false := by
  fun_induction joinHalves s with
  | case1 a b r pair ih =>
      constructor
      · intro same
        have short := length_joinHalves_le r
        have := congrArg List.length same
        simp only [List.length_cons] at this
        omega
      · intro chain
        rw [List.isChain_cons_cons, pair] at chain
        exact absurd chain.1.symm Bool.false_ne_true
  | case2 a b r apart ih =>
      rw [List.isChain_cons_cons, ← ih, List.cons.injEq]
      simp [Bool.eq_false_iff.2 apart]
  | case3 s short =>
      refine ⟨fun _ => ?_, fun _ => rfl⟩
      cases s with
      | nil => exact .nil
      | cons a r =>
          cases r with
          | nil => exact .singleton a
          | cons b r => exact absurd rfl (short a b r)

/-- The text that comes back. -/
def rejoined (s : String) : String := String.ofList (joinHalves s.toList)

theorem rejoined_eq_self_iff (s : String) : rejoined s = s ↔ Whole s := by
  rw [Whole, ← joinHalves_eq_self_iff, rejoined]
  constructor
  · intro h
    simpa using congrArg String.toList h
  · intro h
    rw [h, String.ofList_toList]

theorem length_rejoined_lt {s : String} (h : ¬ Whole s) : (rejoined s).length < s.length := by
  rw [Whole, ← joinHalves_eq_self_iff] at h
  rw [rejoined, ← String.length_toList, ← String.length_toList, String.toList_ofList]
  exact length_joinHalves_lt h

end MinuteBook.Text
