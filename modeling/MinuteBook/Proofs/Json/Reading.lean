import MinuteBook.Json.Writer
import MinuteBook.Proofs.Text.Halves
import MinuteBook.Proofs.Text.Numerals

/-!
# What is written is read back

Texts between quotes and whole numbers, as they stand in a JSON text, are read to the end and no
further. A text comes back with its halves put together, a whole number as it was. The rest behind
them is arbitrary, but for a character that would carry on the digits of a number.
-/

namespace MinuteBook.Json

/-! ## Texts -/

theorem readUnits_unitEscape {n : Nat} (h : n < 0x10000) (r : List Char) :
    readUnits (unitEscape n ++ r) = (readUnits r).map fun p => (n :: p.1, p.2) := by
  rw [unitEscape, Text.hex_four h]
  simp only [List.cons_append, List.nil_append, readUnits, hex4?_digitChar h, Option.bind_eq_bind,
    Option.bind_some, Option.pure_def]
  cases readUnits r <;> rfl

/-- A character that stands as it is. -/
theorem readUnits_cons {c : Char} (quote : c ≠ '"') (slash : c ≠ '\\') (visible : ¬ c.toNat < 32)
    (r : List Char) :
    readUnits (c :: r) = (readUnits r).map fun p => (c.toNat :: p.1, p.2) := by
  rw [readUnits.eq_def]
  split
  · contradiction
  · simp_all
  · simp_all
  · simp_all
  · rename_i c' r' _ _ _ same
    rw [List.cons.injEq] at same
    obtain ⟨rfl, rfl⟩ := same
    simp only [visible, if_false, Option.bind_eq_bind, Option.pure_def]
    cases readUnits r <;> rfl

theorem readUnits_escape {e : Char} {n : Nat} (h : escape? e = some n) (r : List Char) :
    readUnits ('\\' :: e :: r) = (readUnits r).map fun p => (n :: p.1, p.2) := by
  have notU : e ≠ 'u' := by
    rintro rfl
    simp [escape?] at h
  rw [readUnits.eq_def]
  split
  · contradiction
  · simp_all
  · simp_all
  · rename_i e' r' _ same
    simp only [List.cons.injEq, true_and] at same
    obtain ⟨rfl, rfl⟩ := same
    simp only [h, Option.bind_eq_bind, Option.pure_def, Option.bind_some]
    cases readUnits r <;> rfl
  · rename_i _ _ _ noEscape same
    rw [List.cons.injEq] at same
    exact absurd same.2.symm (noEscape e r same.1.symm)

/-- The ways in which the units of a character are written. -/
inductive Spelled : List Nat → List Char → Prop
  | letter (e : Char) (n : Nat) (h : escape? e = some n) : Spelled [n] ['\\', e]
  | unit (n : Nat) (h : n < 0x10000) : Spelled [n] (unitEscape n)
  | plain (c : Char) (quote : c ≠ '"') (slash : c ≠ '\\') (visible : ¬ c.toNat < 32) :
      Spelled [c.toNat] [c]
  | pair (m n : Nat) (hm : m < 0x10000) (hn : n < 0x10000) :
      Spelled [m, n] (unitEscape m ++ unitEscape n)

theorem spelled_escapeChar (c : Char) : Spelled (Text.unitsOf c) (escapeChar .ascii c) := by
  have letter {e : Char} (h : escape? e = some c.toNat) (small : c.toNat < 0x10000) :
      Spelled (Text.unitsOf c) ['\\', e] := by
    rw [Text.unitsOf_small small]
    exact .letter e c.toNat h
  unfold escapeChar
  by_cases quote : c = '"'
  · rw [if_pos quote]
    exact letter (by rw [quote]; rfl) (by rw [quote]; decide)
  by_cases slash : c = '\\'
  · rw [if_neg quote, if_pos slash]
    exact letter (by rw [slash]; rfl) (by rw [slash]; decide)
  by_cases line : c = '\n'
  · rw [if_neg quote, if_neg slash, if_pos line]
    exact letter (by rw [line]; rfl) (by rw [line]; decide)
  by_cases carriage : c = '\r'
  · rw [if_neg quote, if_neg slash, if_neg line, if_pos carriage]
    exact letter (by rw [carriage]; rfl) (by rw [carriage]; decide)
  by_cases tab : c = '\t'
  · rw [if_neg quote, if_neg slash, if_neg line, if_neg carriage, if_pos tab]
    exact letter (by rw [tab]; rfl) (by rw [tab]; decide)
  rw [if_neg quote, if_neg slash, if_neg line, if_neg carriage, if_neg tab]
  by_cases back : c.toNat = 8
  · rw [if_pos back]
    exact letter (by rw [back]; rfl) (by omega)
  by_cases feed : c.toNat = 12
  · rw [if_neg back, if_pos feed]
    exact letter (by rw [feed]; rfl) (by omega)
  rw [if_neg back, if_neg feed]
  by_cases control : c.toNat < 32
  · rw [if_pos control, Text.unitsOf_small (by omega)]
    exact .unit c.toNat (by omega)
  by_cases half : Text.keepsHalf c = true
  · have bound := Text.isHalf_iff.1 half
    rw [if_neg control, if_pos half, Text.unitsOf_half half]
    exact .unit _ (by omega)
  rw [if_neg control, if_neg half]
  by_cases ascii : c.toNat < 127
  · rw [if_pos (by simpa using ascii), Text.unitsOf_small (by omega)]
    exact .plain c quote slash control
  rw [if_neg (by simpa using ascii)]
  by_cases small : c.toNat < 0x10000
  · rw [if_pos small, Text.unitsOf_small small]
    exact .unit c.toNat small
  · have bound := Text.toNat_lt c
    rw [Text.unitsOf, if_neg half, if_neg small, if_neg small]
    exact .pair _ _ (by omega) (by omega)

/-- However units are written, they are read. -/
theorem Spelled.read {units : List Nat} {chars : List Char} (h : Spelled units chars)
    (r : List Char) :
    readUnits (chars ++ r) = (readUnits r).map fun p => (units ++ p.1, p.2) := by
  cases h with
  | letter e n h => exact readUnits_escape h r
  | unit n h => exact readUnits_unitEscape h r
  | plain c quote slash visible => exact readUnits_cons quote slash visible r
  | pair m n hm hn =>
      rw [List.append_assoc, readUnits_unitEscape hm, readUnits_unitEscape hn]
      cases readUnits r <;> rfl

/-- A text between quotes is read up to the closing quote. -/
theorem readUnits_flatMap (s r : List Char) :
    readUnits (s.flatMap (escapeChar .ascii) ++ '"' :: r) = some (s.flatMap Text.unitsOf, r) := by
  induction s with
  | nil => rfl
  | cons c s ih =>
      rw [List.flatMap_cons, List.append_assoc, (spelled_escapeChar c).read, ih]
      rfl

theorem readText_quoted (s : String) (r : List Char) :
    readText (s.toList.flatMap (escapeChar .ascii) ++ '"' :: r) = some (Text.rejoined s, r) := by
  rw [readText, readUnits_flatMap]
  simp only [Option.map_some, Text.ofUnits_flatMap_unitsOf, Text.rejoined]

/-! ## Whole numbers -/

/-- A character that does not carry on a whole number. -/
def endsNumber (c : Char) : Bool := !(c.isDigit || c == '.' || c == 'e' || c == 'E')

section

variable {c : Char} (ends : endsNumber c = true) (r : List Char)
include ends

theorem readFraction_of_ends : readFraction (c :: r) = ([], c :: r) := by
  unfold readFraction
  split
  · rename_i same
    rw [List.cons.injEq] at same
    obtain ⟨rfl, -⟩ := same
    contradiction
  · rfl

theorem readExponent_of_ends : readExponent (c :: r) = (none, c :: r) := by
  simp only [endsNumber, Bool.not_eq_true', Bool.or_eq_false_iff] at ends
  simp [readExponent, ends]

theorem takeWhile_natDigits (k : Nat) :
    (Text.natDigits k ++ c :: r).takeWhile Char.isDigit = Text.natDigits k := by
  simp only [endsNumber, Bool.not_eq_true', Bool.or_eq_false_iff] at ends
  rw [List.takeWhile_append_of_pos fun d hd => Text.isDigit_of_mem_natDigits hd,
    List.takeWhile_cons_of_neg (by simp [ends]), List.append_nil]

theorem dropWhile_natDigits (k : Nat) :
    (Text.natDigits k ++ c :: r).dropWhile Char.isDigit = c :: r := by
  simp only [endsNumber, Bool.not_eq_true', Bool.or_eq_false_iff] at ends
  rw [List.dropWhile_append_of_pos fun d hd => Text.isDigit_of_mem_natDigits hd,
    List.dropWhile_cons_of_neg (by simp [ends])]

theorem readWhole_natDigits (k : Nat) :
    readWhole (Text.natDigits k ++ c :: r) = (Text.natDigits k, c :: r) := by
  unfold readWhole
  split
  · rename_i rest same
    cases digits : Text.natDigits k with
    | nil => exact absurd digits (Text.natDigits_ne_nil k)
    | cons d ds =>
        rw [digits, List.cons_append, List.cons.injEq] at same
        obtain ⟨rfl, same⟩ := same
        obtain ⟨-, rfl⟩ := Text.natDigits_eq_zero_of_head digits
        rw [← same]
        rfl
  · rw [takeWhile_natDigits ends, dropWhile_natDigits ends]

/-- A whole number that is short enough is read up to the character that ends it. -/
theorem readNumber_int {n : Int} (short : n.natAbs < Text.wholeLimit) :
    readNumber ((Text.int n).toList ++ c :: r) = some (.int n, c :: r) := by
  have fits : ¬ Text.maxDigits < (Text.natDigits n.natAbs).length :=
    Nat.not_lt.2 (Text.length_natDigits_le_iff.2 short)
  have whole := readWhole_natDigits ends r n.natAbs
  have full : (Text.natDigits n.natAbs).isEmpty = false := by
    simp [Text.natDigits_ne_nil]
  rw [Text.int, String.toList_ofList]
  by_cases negative : n < 0
  · rw [if_pos negative, List.cons_append]
    simp only [readNumber, whole, readFraction_of_ends ends, readExponent_of_ends ends, full, fits,
      Text.ofDigits_natDigits, Bool.false_eq_true, if_false, if_true, List.isEmpty_nil,
      Option.isNone_none, Bool.and_self, Option.some.injEq, Prod.mk.injEq, Value.int.injEq,
      and_true]
    omega
  · rw [if_neg negative]
    unfold readNumber
    split
    rename_i neg body signed
    -- The digits do not begin with a sign.
    have unsigned : (neg, body) = (false, Text.natDigits n.natAbs ++ c :: r) := by
      rw [← signed]
      split
      · rename_i rest same
        obtain ⟨d, ds, digits⟩ := List.exists_cons_of_ne_nil (Text.natDigits_ne_nil n.natAbs)
        have digit : d.isDigit = true :=
          Text.isDigit_of_mem_natDigits (digits ▸ List.mem_cons_self)
        rw [digits, List.cons_append, List.cons.injEq] at same
        rw [same.1] at digit
        exact absurd digit (by decide)
      · rfl
    obtain ⟨rfl, rfl⟩ := Prod.mk.injEq .. ▸ unsigned
    simp only [whole, readFraction_of_ends ends, readExponent_of_ends ends, full, fits,
      Text.ofDigits_natDigits, Bool.false_eq_true, if_false, if_true, List.isEmpty_nil,
      Option.isNone_none, Bool.and_self, Option.some.injEq, Prod.mk.injEq, Value.int.injEq,
      and_true]
    omega

end

/-- A whole number begins with a digit, or with a minus sign and a digit. -/
theorem head_int (n : Int) : ∃ d ds, (Text.int n).toList = d :: ds ∧
    (d.isDigit = true ∨ d = '-' ∧ ∃ e es, ds = e :: es ∧ e.isDigit = true) := by
  obtain ⟨d, ds, digits⟩ := List.exists_cons_of_ne_nil (Text.natDigits_ne_nil n.natAbs)
  have digit : d.isDigit = true := Text.isDigit_of_mem_natDigits (digits ▸ List.mem_cons_self)
  rw [Text.int, String.toList_ofList]
  by_cases negative : n < 0
  · exact ⟨'-', d :: ds, by rw [if_pos negative, digits], .inr ⟨rfl, d, ds, rfl, digit⟩⟩
  · exact ⟨d, ds, by rw [if_neg negative, digits], .inl digit⟩

theorem skip_int (n : Int) (r : List Char) :
    skip ((Text.int n).toList ++ r) = (Text.int n).toList ++ r := by
  obtain ⟨d, ds, chars, head⟩ := head_int n
  have visible : isSpace d = false := by
    rw [Bool.eq_false_iff]
    intro space
    simp only [isSpace, Bool.or_eq_true, beq_iff_eq] at space
    rcases space with ((rfl | rfl) | rfl) | rfl <;> simp [Char.isDigit] at head
  rw [chars, List.cons_append, skip, List.dropWhile_cons_of_neg (by rw [visible]; exact
    Bool.false_ne_true)]

/-! ## Values, items and entries -/

theorem readValue_quote (n : Nat) (s : String) (r : List Char) :
    readValue (n + 1) (quote .ascii s ++ r) = some (.text (Text.rejoined s), r) := by
  have body : quote .ascii s ++ r = '"' :: (s.toList.flatMap (escapeChar .ascii) ++ '"' :: r) := by
    simp [quote]
  rw [body, readValue, readText_quoted]
  rfl

theorem readValue_int (n : Nat) {k : Int} (short : k.natAbs < Text.wholeLimit) {c : Char}
    (ends : endsNumber c = true) (r : List Char) :
    readValue (n + 1) ((Text.int k).toList ++ c :: r) = some (.int k, c :: r) := by
  have number := readNumber_int ends r short
  obtain ⟨d, ds, chars, head⟩ := head_int k
  rw [chars, List.cons_append] at number ⊢
  have plain : d ≠ '"' ∧ d ≠ '[' ∧ d ≠ '\x7b' := by
    refine ⟨?_, ?_, ?_⟩ <;> rintro rfl <;> simp [Char.isDigit] at head
  have letters : 'n' ≠ d ∧ 't' ≠ d ∧ 'f' ≠ d ∧ 'N' ≠ d ∧ 'I' ≠ d := by
    refine ⟨?_, ?_, ?_, ?_, ?_⟩ <;> rintro rfl <;> simp [Char.isDigit] at head
  -- No word is spelled here: the only one that begins like a number is `-Infinity`.
  have noWord : (words.findSome? fun w => (w.1.isPrefixOf? (d :: (ds ++ c :: r))).map (w.2, ·)) =
      none := by
    rcases head with digit | ⟨rfl, e, es, rfl, digit⟩
    · have unsigned : '-' ≠ d := by
        rintro rfl
        exact absurd digit (by decide)
      simp [words, List.isPrefixOf?, letters, unsigned]
    · have infinite : 'I' ≠ e := by
        rintro rfl
        exact absurd digit (by decide)
      simp [words, List.isPrefixOf?, infinite]
  rw [readValue, readAtom, noWord]
  · exact number
  · simpa using plain.1
  · simpa using plain.2.1
  · simpa using plain.2.2

/-- The entry before a closing brace. -/
theorem readEntries_last {n : Nat} {key : String} {v : Value} {t s r rest : List Char}
    (hkey : readText t = some (key, ':' :: s)) (hv : readValue n (skip s) = some (v, r))
    (hend : skip r = '\x7d' :: rest) :
    readEntries (n + 1) ('"' :: t) = some ([(.text key, v)], rest) := by
  have colon : skip (':' :: s) = ':' :: s := rfl
  rw [readEntries]
  simp only [hkey, colon, hv, hend, Option.bind_eq_bind, Option.bind_some, Option.pure_def]

/-- An entry before a comma. -/
theorem readEntries_more {n : Nat} {key : String} {v : Value} {es : Record}
    {t s r r' u rest : List Char} (hkey : readText t = some (key, ':' :: s))
    (hv : readValue n (skip s) = some (v, r)) (hcomma : skip r = ',' :: r') (hnext : skip r' = u)
    (hes : readEntries n u = some (es, rest)) :
    readEntries (n + 1) ('"' :: t) = some ((.text key, v) :: es, rest) := by
  have colon : skip (':' :: s) = ':' :: s := rfl
  rw [readEntries]
  simp only [hkey, colon, hv, hcomma, hnext, hes, Option.bind_eq_bind, Option.bind_some,
    Option.pure_def]

/-- The item before a closing bracket. -/
theorem readItems_last {n : Nat} {v : Value} {s r rest : List Char}
    (hv : readValue n s = some (v, r)) (hend : skip r = ']' :: rest) :
    readItems (n + 1) s = some ([v], rest) := by
  rw [readItems]
  simp only [hv, hend, Option.bind_eq_bind, Option.bind_some, Option.pure_def]

/-- An item before a comma. -/
theorem readItems_more {n : Nat} {v : Value} {vs : List Value} {s r r' u rest : List Char}
    (hv : readValue n s = some (v, r)) (hcomma : skip r = ',' :: r') (hnext : skip r' = u)
    (hvs : readItems n u = some (vs, rest)) :
    readItems (n + 1) s = some (v :: vs, rest) := by
  rw [readItems]
  simp only [hv, hcomma, hnext, hvs, Option.bind_eq_bind, Option.bind_some, Option.pure_def]

/-- A mapping with at least one entry. -/
theorem readValue_mapping {n : Nat} {es : Record} {r t rest : List Char} (hopen : skip r = '"' :: t)
    (hes : readEntries n ('"' :: t) = some (es, rest)) :
    readValue (n + 1) ('\x7b' :: r) = some (.mapping (Record.ofPairs es), rest) := by
  rw [readValue, hopen]
  exact congrArg (Option.map fun p => (Value.mapping (Record.ofPairs p.1), p.2)) hes

/-- A list with at least one item. -/
theorem readValue_list {n : Nat} {vs : List Value} {r u rest : List Char} (hopen : skip r = u)
    (hu : ∀ t, u ≠ ']' :: t) (hvs : readItems n u = some (vs, rest)) :
    readValue (n + 1) ('[' :: r) = some (.list vs, rest) := by
  rw [readValue, hopen]
  split
  · rename_i t
    exact absurd rfl (hu t)
  · rw [hvs]
    rfl

end MinuteBook.Json
