import MinuteBook.Proofs.Markup.Filtered
import MinuteBook.Proofs.Number.Whole

/-!
# Amounts that are printed

Both filters round to hundredths before they print, and both print the same hundredths. They differ
in the sign: the one for percent points leaves it out where nothing but zeros is to be seen, the one
for money does not (`Filter.signs_of_amount`). Whole amounts up to `2 ^ 53` are printed in all their
digits (`Markup.render_whole_amount`).
-/

namespace MinuteBook

/-- A dash, if there is a reason for it. -/
def Text.minus (p : Prop) [Decidable p] : List Char := if p then ['-'] else []

open Text (minus)

section

variable {p q : Prop} [Decidable p] [Decidable q]

@[simp] theorem Text.mem_minus_iff {c : Char} : c ∈ minus p ↔ c = '-' ∧ p := by
  unfold minus
  split <;> simp_all

@[simp] theorem Text.not_shows_minus : ¬ Shows (minus p) := by
  unfold minus
  split <;> simp

theorem Text.minus_congr (same : p ↔ q) : minus p = minus q :=
  if_congr same rfl rfl

theorem Text.toList_int (n : Int) : (int n).toList = minus (n < 0) ++ natDigits n.natAbs := by
  rw [int, String.toList_ofList, minus]
  split <;> rfl

end

theorem Double.signed_neg_iff {negative : Bool} {units : Nat} :
    signed negative units < 0 ↔ negative = true ∧ units ≠ 0 := by
  cases negative
  · simp [signed]
  · simp [signed]
    omega

theorem Double.signed_whole_neg_iff {n : Int} :
    signed (decide (n < 0)) (n.natAbs * one) < 0 ↔ n < 0 := by
  rw [signed_neg_iff, decide_eq_true_eq, and_iff_left_iff_imp]
  intro below
  exact Nat.mul_ne_zero (by omega) (Nat.ne_of_gt one_pos)

namespace Filter

variable {v : Value} {text : String} {negative : Bool} {units : Nat}

/-! ## What the filters print -/

theorem money_of_amount (read : amount? text = some (negative, units)) :
    (money v text).toList = minus (Double.signed negative units < 0) ++
      '$' :: hundredthsText (Double.hundredths units) := by
  have sign : (negative && units != 0) = true ↔ Double.signed negative units < 0 := by
    simp [Double.signed_neg_iff]
  rw [money, read]
  by_cases below : Double.signed negative units < 0
  · simp [sign.2 below, minus, below]
  · simp [Bool.eq_false_iff.2 (mt sign.1 below), minus, below]

/-- What is dropped at the end leaves a dash in front. -/
theorem dropTrailing_dash (s : List Char) : dropTrailing ('-' :: s) = '-' :: dropTrailing s := by
  have keep {p : Char → Bool} (other : p '-' = false) (r : List Char) :
      (r ++ ['-']).dropWhile p = r.dropWhile p ++ ['-'] := by
    rw [List.dropWhile_append, List.dropWhile_cons_of_neg (by simp [other])]
    split
    · rename_i none
      rw [List.isEmpty_iff.1 none, List.nil_append]
    · rfl
  rw [dropTrailing, List.reverse_cons, keep (by decide), keep (by decide), List.reverse_append]
  rfl

theorem dropTrailing_eq (s : List Char) :
    dropTrailing s = (s.rdropWhile (· == '0')).rdropWhile (· == '.') := by
  rw [dropTrailing, List.rdropWhile, List.rdropWhile, List.reverse_reverse]

theorem dropTrailing_subset (s : List Char) : dropTrailing s ⊆ s := by
  rw [dropTrailing_eq]
  exact ((List.rdropWhile_prefix _ _).trans (List.rdropWhile_prefix _ _)).subset

theorem shows_dropTrailing_iff {s : List Char} : Shows (dropTrailing s) ↔ Shows s := by
  rw [dropTrailing, shows_reverse_iff, shows_dropWhile_iff, shows_dropWhile_iff, shows_reverse_iff]
  · simp
  · simp

/-- Two zeros are dropped with the point before them. -/
theorem dropTrailing_zeros {s : List Char} (whole : '.' ∉ s) :
    dropTrailing (s ++ ['.', '0', '0']) = s := by
  have apart : s ++ ['.', '0', '0'] = ((s ++ ['.']) ++ ['0']) ++ ['0'] := by simp
  rw [dropTrailing_eq, apart, List.rdropWhile_concat_pos _ _ _ (by decide),
    List.rdropWhile_concat_pos _ _ _ (by decide), List.rdropWhile_concat_neg _ _ _ (by decide),
    List.rdropWhile_concat_pos _ _ _ (by decide), List.rdropWhile_eq_self_iff]
  intro filled
  have other : s.getLast filled ≠ '.' := fun last => whole (last ▸ List.getLast_mem filled)
  simp [other]

theorem pct_of_amount (read : amount? text = some (negative, units)) :
    (pct v text).toList =
      minus (Double.signed negative units < 0 ∧ Double.hundredths units ≠ 0) ++
        (dropTrailing (hundredthsText (Double.hundredths units)) ++ ['%']) := by
  have front (s : List Char) : dropTrailing (if negative then '-' :: s else s) =
      minus (negative = true) ++ dropTrailing s := by
    cases negative
    · rfl
    · exact dropTrailing_dash s
  rw [pct, read]
  simp only [front]
  by_cases nothing : Double.hundredths units = 0
  · have zero : dropTrailing (hundredthsText 0) = ['0'] := by decide
    rw [nothing, zero]
    cases negative <;> simp [minus]
  · -- Then a digit is left that is not zero, and the sign stays.
    have shown : Shows (minus (negative = true) ++
        dropTrailing (hundredthsText (Double.hundredths units))) := by
      rw [shows_append_iff, shows_dropTrailing_iff, shows_hundredthsText_iff]
      exact .inr nothing
    have positive : units ≠ 0 := by
      rintro rfl
      exact nothing (by decide +kernel)
    have sign : negative = true ↔
        Double.signed negative units < 0 ∧ Double.hundredths units ≠ 0 := by
      simp [Double.signed_neg_iff, nothing, positive]
    rw [Text.minus_congr sign] at shown ⊢
    have other : ¬ Shows ['-', '0'] := by simp
    rw [if_neg ?_, String.toList_append, String.toList_ofList, List.append_assoc]
    · rfl
    · rw [Bool.or_eq_true, decide_eq_true_eq, decide_eq_true_eq]
      rintro (same | same) <;> rw [same] at shown
      · exact other shown
      · exact not_shows_nil shown

/-! ## The sign -/

theorem dash_not_mem_hundredthsText (n : Nat) : '-' ∉ hundredthsText n := by
  intro inside
  exact absurd (mem_hundredthsText inside) (by decide)

theorem dash_mem_money_iff (read : amount? text = some (negative, units)) :
    '-' ∈ (money v text).toList ↔ Double.signed negative units < 0 := by
  have digits := dash_not_mem_hundredthsText (Double.hundredths units)
  simp [money_of_amount read, digits]

theorem shows_money_iff (read : amount? text = some (negative, units)) :
    Shows (money v text).toList ↔ Double.one < 200 * units := by
  rw [← Nat.not_le, ← Double.hundredths_eq_zero_iff]
  simp [money_of_amount read, shows_hundredthsText_iff]

theorem shows_pct_iff (read : amount? text = some (negative, units)) :
    Shows (pct v text).toList ↔ Double.one < 200 * units := by
  rw [← Nat.not_le, ← Double.hundredths_eq_zero_iff]
  simp [pct_of_amount read, shows_dropTrailing_iff, shows_hundredthsText_iff]

theorem dash_mem_pct_iff (read : amount? text = some (negative, units)) :
    '-' ∈ (pct v text).toList ↔
      Double.signed negative units < 0 ∧ Double.one < 200 * units := by
  have digits : '-' ∉ dropTrailing (hundredthsText (Double.hundredths units)) := fun inside =>
    dash_not_mem_hundredthsText _ (dropTrailing_subset _ inside)
  rw [← Nat.not_le, ← Double.hundredths_eq_zero_iff]
  simp [pct_of_amount read, digits]

/-- Both filters print an amount in hundredths, rounded to the nearest, and both show a digit other
than zero exactly if the amount is more than half a hundredth. Among percent points a dash is
printed exactly if the amount is negative and such a digit is shown. With money it is printed
whenever the amount is negative; so money keeps to the same rule, and the two filters agree on the
sign, exactly if the amount is not a negative one of half a hundredth at most. -/
theorem signs_of_amount (v : Value) (read : amount? text = some (negative, units)) :
    (∃ cents, NearestEven (100 * units) Double.one cents ∧
      (money v text).toList =
        minus (Double.signed negative units < 0) ++ '$' :: hundredthsText cents ∧
      (pct v text).toList = minus (Double.signed negative units < 0 ∧ cents ≠ 0) ++
        (dropTrailing (hundredthsText cents) ++ ['%'])) ∧
    (Shows (money v text).toList ↔ Double.one < 200 * units) ∧
    (Shows (pct v text).toList ↔ Double.one < 200 * units) ∧
    ('-' ∈ (pct v text).toList ↔
      Double.signed negative units < 0 ∧ Shows (pct v text).toList) ∧
    (('-' ∈ (money v text).toList ↔
      Double.signed negative units < 0 ∧ Shows (money v text).toList) ↔
        ¬ (Double.signed negative units < 0 ∧ 200 * units ≤ Double.one)) ∧
    (('-' ∈ (money v text).toList ↔ '-' ∈ (pct v text).toList) ↔
      ¬ (Double.signed negative units < 0 ∧ 200 * units ≤ Double.one)) := by
  refine ⟨⟨_, Double.nearestEven_hundredths units, money_of_amount read, pct_of_amount read⟩,
    shows_money_iff read, shows_pct_iff read, ?_, ?_, ?_⟩
  · rw [shows_pct_iff read, dash_mem_pct_iff read]
  · rw [shows_money_iff read, dash_mem_money_iff read, ← Nat.not_le]
    exact iff_self_and.trans not_and.symm
  · rw [dash_mem_money_iff read, dash_mem_pct_iff read, ← Nat.not_le]
    exact iff_self_and.trans not_and.symm

/-- For instance, a thousandth below zero is so little that it is nothing in percent points, and
yet it has a sign as money. -/
theorem signs_of_thousandth : ∃ units, amount? "-0.001" = some (true, units) ∧
    (Double.signed true units < 0 ∧ 200 * units ≤ Double.one) ∧
    money .null "-0.001" = "-$0.00" ∧ pct .null "-0.001" = "0%" := by
  have spelled : (amount? "-0.001").map Prod.fst = some true := by decide +kernel
  obtain ⟨⟨negative, units⟩, read, sign⟩ := Option.map_eq_some_iff.1 spelled
  obtain rfl : negative = true := sign
  have asMoney : money .null "-0.001" = "-$0.00" := by decide +kernel
  have asPct : pct .null "-0.001" = "0%" := by decide +kernel
  obtain ⟨-, -, -, -, -, agree⟩ := signs_of_amount .null read
  rw [asMoney, asPct] at agree
  have disagree : ¬ ('-' ∈ "-$0.00".toList ↔ '-' ∈ "0%".toList) := by decide
  exact ⟨units, read, not_not.1 (mt agree.2 disagree), asMoney, asPct⟩

end Filter

/-! ## Whole amounts -/

/-- A value that holds a whole number, be it as a whole number or as a double that equals it. -/
def Value.HoldsWhole (v : Value) (n : Int) : Prop :=
  v = .int n ∨ ∃ x : Double, v = .double x ∧ x.equalsInt n = true

namespace Filter

/-- A text without dollar signs, commas and percent signs. -/
def unmarked (s : List Char) : List Char := s.filter fun c => !(c == '$' || c == ',' || c == '%')

/-- A text without these marks, and then without `.00` at its end. -/
def bare (s : List Char) : List Char :=
  if ['.', '0', '0'].isSuffixOf (unmarked s) then (unmarked s).take ((unmarked s).length - 3)
  else unmarked s

theorem unmarked_append (s t : List Char) : unmarked (s ++ t) = unmarked s ++ unmarked t :=
  List.filter_append ..

theorem unmarked_minus (p : Prop) [Decidable p] : unmarked (minus p) = minus p := by
  unfold minus
  split <;> rfl

theorem kept_of_mem_natDigits {n : Nat} {c : Char} (h : c ∈ Text.natDigits n) :
    (!(c == '$' || c == ',' || c == '%')) = true := by
  have other {d : Char} (mark : d.isDigit = false) : c ≠ d := by
    rintro rfl
    exact absurd ((Text.isDigit_of_mem_natDigits h).symm.trans mark) (by decide)
  have dollar : c ≠ '$' := other (by decide)
  have comma : c ≠ ',' := other (by decide)
  have percent : c ≠ '%' := other (by decide)
  simp [dollar, comma, percent]

theorem unmarked_of_inGroups {n : Nat} {text : List Char} (h : InGroups (Text.natDigits n) text) :
    unmarked text = Text.natDigits n :=
  h.filter_eq (fun _ => kept_of_mem_natDigits) rfl

theorem unmarked_int (n : Int) : unmarked (Text.int n).toList = (Text.int n).toList := by
  rw [Text.toList_int, unmarked_append, unmarked_minus]
  exact congrArg (minus (n < 0) ++ ·) (List.filter_eq_self.2 fun _ => kept_of_mem_natDigits)

end Filter

section

variable {n : Int} (small : n.natAbs ≤ 2 ^ 53)

include small

/-- Either way the value is printed in its decimal digits. -/
theorem Value.HoldsWhole.plain_eq {v : Value} (holds : v.HoldsWhole n) :
    v.plain = .ok (Text.int n) := by
  have short : n.natAbs < Text.wholeLimit :=
    Text.lt_wholeLimit (k := 16) (Nat.lt_of_le_of_lt small (by decide)) (by decide)
  rcases holds with rfl | ⟨x, rfl, whole⟩
  · rw [plain, wholeText_of_lt short]
  · rw [plain, doublePlain, Double.whole?_of_equalsInt whole]

namespace Filter

variable {v : Value}

theorem amount?_int :
    amount? (Text.int n) = some (decide (n < 0), n.natAbs * Double.one) := by
  have kept := unmarked_int n
  rw [unmarked] at kept
  rw [amount?, kept, String.ofList_toList, Numeral.double?_int small]

theorem money_int : (money v (Text.int n)).toList =
    minus (n < 0) ++ '$' :: (groupThousands (Text.natDigits n.natAbs) ++ ['.', '0', '0']) := by
  rw [money_of_amount (amount?_int small), Double.hundredths_whole, hundredthsText_whole,
    Text.minus_congr Double.signed_whole_neg_iff]

theorem pct_int : (pct v (Text.int n)).toList =
    minus (n < 0) ++ (groupThousands (Text.natDigits n.natAbs) ++ ['%']) := by
  have whole : '.' ∉ groupThousands (Text.natDigits n.natAbs) := by
    rw [(inGroups_natDigits _).mem_iff (by decide)]
    intro inside
    exact absurd (Text.isDigit_of_mem_natDigits inside) (by decide)
  have sign : Double.signed (decide (n < 0)) (n.natAbs * Double.one) < 0 ∧ 100 * n.natAbs ≠ 0 ↔
      n < 0 := by
    rw [Double.signed_whole_neg_iff]
    omega
  rw [pct_of_amount (amount?_int small), Double.hundredths_whole, hundredthsText_whole,
    dropTrailing_zeros whole, Text.minus_congr sign]

end Filter

end

namespace Filter

variable {k : Nat} {digits : List Char} {p : Prop} [Decidable p]

theorem bare_money (grouped : InGroups (Text.natDigits k) digits) :
    bare (minus p ++ '$' :: (digits ++ ['.', '0', '0'])) = minus p ++ Text.natDigits k := by
  have kept : unmarked (minus p ++ '$' :: (digits ++ ['.', '0', '0'])) =
      (minus p ++ Text.natDigits k) ++ ['.', '0', '0'] := by
    have front : '$' :: (digits ++ ['.', '0', '0']) = ['$'] ++ (digits ++ ['.', '0', '0']) := rfl
    rw [front, unmarked_append, unmarked_append, unmarked_append, unmarked_minus,
      unmarked_of_inGroups grouped, List.append_assoc]
    rfl
  rw [bare, kept, if_pos (List.isSuffixOf_iff_suffix.2 (List.suffix_append _ _)),
    List.length_append]
  exact List.take_left' rfl

theorem bare_pct (grouped : InGroups (Text.natDigits k) digits) :
    bare (minus p ++ (digits ++ ['%'])) = minus p ++ Text.natDigits k := by
  have kept : unmarked (minus p ++ (digits ++ ['%'])) = minus p ++ Text.natDigits k := by
    rw [unmarked_append, unmarked_append, unmarked_minus, unmarked_of_inGroups grouped]
    exact congrArg (minus p ++ ·) (List.append_nil _)
  have point : ¬ ['.', '0', '0'].isSuffixOf (minus p ++ Text.natDigits k) = true := by
    rw [List.isSuffixOf_iff_suffix]
    intro ends
    have inside : '.' ∈ minus p ++ Text.natDigits k := ends.subset List.mem_cons_self
    rw [List.mem_append, Text.mem_minus_iff] at inside
    rcases inside with ⟨dash, -⟩ | digit
    · exact absurd dash (by decide)
    · exact absurd (Text.isDigit_of_mem_natDigits digit) (by decide)
  rw [bare, kept, if_neg point]

end Filter

theorem Expression.render_filtered {path filter : String} {s : Store} {v : Value} {f : Filter}
    {text : String} (found : s.lookup path = some v) (plain : v.plain = .ok text)
    (known : Filters.builtin.lookup filter = some f) :
    (Expression.var path (some filter)).render .builtin s = .ok (f v text) := by
  rw [Expression.render, found]
  simp only [plain, ok_bind, Filters.apply, Option.bind_some, known]
  rfl

/-- A tag with a known filter prints what the filter makes of the printed value, alone and wherever
else a template has it. -/
theorem Path.InTag.render_filtered {path name : String} (h : InTag path name) (filter : String)
    {s : Store} {v : Value} {f : Filter} {text : String} (found : s.lookup path = some v)
    (plain : v.plain = .ok text) (known : Filters.builtin.lookup filter = some f)
    (word : Token.IsWord filter.toList) (whole : Markup.Sealed '\x7d' filter.toList) :
    Markup.render .builtin (filterTag path filter) s = .ok (f v text) ∧
      ∀ before after, Markup.Closed before →
        Markup.render .builtin (before ++ (filterTag path filter ++ after)) s = do
          return (← Markup.render .builtin before s) ++
            (f v text ++ (← Markup.render .builtin after s)) := by
  have printed := Expression.render_filtered found plain known
  constructor
  · rw [h.render_filterTag_alone word whole, printed]
  · intro before after closed
    rw [h.render_filterTag word whole closed, printed]
    rfl

/-- Every whole amount up to `2 ^ 53`, be it held as a whole number or as a double, is printed in
all its digits, in groups of three: as money behind a dollar sign and with `.00` at the end, as
percent points before a percent sign, and with a dash in front exactly if it is below zero. Without
these marks either text is the decimal text of the number. So it is for the tag alone, and wherever
else a template has it. -/
theorem Markup.render_whole_amount {n : Int} (small : n.natAbs ≤ 2 ^ 53) {v : Value}
    (holds : v.HoldsWhole n) {s : Store} {path name : String} (found : s.lookup path = some v)
    (inTag : Path.InTag path name) :
    ∃ digits money pct, InGroups (Text.natDigits n.natAbs) digits ∧
      money.toList = minus (n < 0) ++ '$' :: (digits ++ ['.', '0', '0']) ∧
      pct.toList = minus (n < 0) ++ (digits ++ ['%']) ∧
      ∀ filter text, (filter, text) ∈ [("money", money), ("pct", pct)] →
        Filter.bare text.toList = (Text.int n).toList ∧
        render .builtin (filterTag path filter) s = .ok text ∧
        ∀ before after, Closed before →
          render .builtin (before ++ (filterTag path filter ++ after)) s = do
            return (← render .builtin before s) ++ (text ++ (← render .builtin after s)) := by
  have grouped := inGroups_natDigits n.natAbs
  have plain := holds.plain_eq small
  have asMoney := Filter.money_int (v := v) small
  have asPct := Filter.pct_int (v := v) small
  refine ⟨_, _, _, grouped, asMoney, asPct, ?_⟩
  have money := inTag.render_filtered "money" found plain rfl
    ⟨by decide, List.all_eq_true.1 (by rfl)⟩ (sealed_of_not_mem (by decide))
  have pct := inTag.render_filtered "pct" found plain rfl
    ⟨by decide, List.all_eq_true.1 (by rfl)⟩ (sealed_of_not_mem (by decide))
  intro filter text member
  rcases List.mem_pair.1 member with same | same
  · obtain ⟨rfl, printed⟩ := Prod.mk.inj same
    rw [printed]
    refine ⟨?_, money⟩
    rw [asMoney, Filter.bare_money grouped, Text.toList_int]
  · obtain ⟨rfl, printed⟩ := Prod.mk.inj same
    rw [printed]
    refine ⟨?_, pct⟩
    rw [asPct, Filter.bare_pct grouped, Text.toList_int]

/-- A store with a debt of more than a million, held as a double. -/
def Store.debt : Store := ⟨[("paid", .double (.finite true (1200300 * Double.one)))], []⟩

/-- For instance, of such a debt the zeros at the end are printed too. -/
theorem Markup.render_whole_debt : ∃ digits,
    InGroups "1200300".toList digits ∧
    render .builtin "Paid \x7b\x7bpaid | money\x7d\x7d." Store.debt =
      .ok ("Paid " ++ (String.ofList ('-' :: '$' :: (digits ++ ['.', '0', '0'])) ++ ".")) ∧
    render .builtin "\x7b\x7bpaid | pct\x7d\x7d" Store.debt =
      .ok (String.ofList ('-' :: (digits ++ ['%']))) := by
  have inTag : Path.InTag "paid" "paid" :=
    ⟨⟨[], [], Token.gap_nil, Token.gap_nil, by simp⟩,
      ⟨⟨by decide, List.all_eq_true.1 (by rfl)⟩, noPair_of_not_mem (by decide)⟩, by decide⟩
  have holds : (Value.double (.finite true (1200300 * Double.one))).HoldsWhole (-1200300) :=
    .inr ⟨_, rfl, by decide +kernel⟩
  obtain ⟨digits, money, pct, grouped, asMoney, asPct, tags⟩ :=
    render_whole_amount (by decide) holds (s := Store.debt) rfl inTag
  have inMoney := tags "money" money List.mem_cons_self
  have inPct := tags "pct" pct (List.mem_cons_of_mem _ List.mem_cons_self)
  have plain (text : String) (free : '\x7b' ∉ text.toList) :
      render .builtin text Store.debt = .ok text :=
    render_text (noPair_of_not_mem free) _ _
  have whole := inMoney.2.2 "Paid " "." (closed_text (sealed_of_not_mem (by decide)))
  rw [plain "Paid " (by decide), plain "." (by decide)] at whole
  have moneyText : String.ofList ('-' :: '$' :: (digits ++ ['.', '0', '0'])) = money :=
    String.toList_inj.1 (by rw [asMoney, String.toList_ofList]; rfl)
  have pctText : String.ofList ('-' :: (digits ++ ['%'])) = pct :=
    String.toList_inj.1 (by rw [asPct, String.toList_ofList]; rfl)
  refine ⟨digits, grouped, ?_, ?_⟩
  · rw [moneyText]
    exact whole
  · rw [pctText]
    exact inPct.2.1

end MinuteBook
