import Mathlib.Data.List.Induction
import Mathlib.Data.List.TakeWhile
import MinuteBook.Proofs.Register.Entries
import MinuteBook.Proofs.Saving

/-!
# Values without long numbers

Most texts can be written, but a whole number may be too long. Here it is said of which values that
is never so (`Value.Short`): every number in them, cut off at the point, is short enough. Whatever
is read from JSON is such a value (`Json.short_of_read`), because longer numbers are refused there
and doubles end long before; and so a register that is loaded holds none but short numbers
(`Numbering.short_of_load`).
-/

namespace MinuteBook

/-! ## Numbers -/

/-- As many digits as given spell a number below that power of ten. -/
theorem Text.ofDigits_lt {ds : List Nat} (digits : ∀ d ∈ ds, d < 10) :
    ofDigits ds < Nat.pow 10 ds.length := by
  induction ds using List.reverseRecOn with
  | nil => decide
  | append_singleton ds d ih =>
      rw [List.forall_mem_append, List.forall_mem_singleton] at digits
      have before := ih digits.1
      have step : ofDigits (ds ++ [d]) = 10 * ofDigits ds + d := List.foldl_concat _ _ _ _
      have power : Nat.pow 10 (ds ++ [d]).length = 10 * Nat.pow 10 ds.length := by
        rw [List.length_append, List.length_singleton]
        exact Nat.pow_succ'
      rw [step, power]
      omega

theorem Text.ofDigits_lt_wholeLimit {ds : List Nat} (digits : ∀ d ∈ ds, d < 10)
    (few : ds.length ≤ maxDigits) : ofDigits ds < wholeLimit :=
  lt_wholeLimit (ofDigits_lt digits) few

/-- A sign makes no number longer. -/
theorem natAbs_signed {negative : Prop} [Decidable negative] (n : Nat) :
    (if negative then -(n : Int) else n).natAbs = n := by
  split
  · rw [Int.natAbs_neg, Int.natAbs_natCast]
  · exact Int.natAbs_natCast n

namespace Double

/-- A double that is finite lies below the limit of doubles. -/
def Bounded (x : Double) : Prop := ∀ negative units, x = .finite negative units → units < limit

theorem limit_pos : 0 < limit := by
  decide +kernel

theorem bounded_ofRatio (negative : Bool) (num den : Nat) : (ofRatio negative num den).Bounded := by
  intro negative' units same
  rw [ofRatio] at same
  split at same
  · rename_i small
    obtain ⟨-, rfl⟩ := Double.finite.inj same
    exact small
  · exact absurd same (by simp)

theorem bounded_ofDecimal (negative : Bool) (digits : List Nat) (exponent : Int) :
    (ofDecimal negative digits exponent).Bounded := by
  rw [ofDecimal]
  split
  · intro _ units same
    obtain ⟨-, rfl⟩ := Double.finite.inj same
    exact limit_pos
  · split
    · intro _ _ same
      exact absurd same (by simp)
    · exact bounded_ofRatio _ _ _

/-- No double is nearly as large as the whole numbers that are too long. -/
theorem Bounded.div_lt {negative : Bool} {units : Nat} (h : Bounded (.finite negative units)) :
    units / one < Text.wholeLimit := by
  have inside := h negative units rfl
  rw [limit] at inside
  have tens : Nat.pow 2 1024 < Nat.pow 10 309 := by
    decide +kernel
  generalize Nat.pow 2 1024 = twos at inside tens
  rw [Nat.mul_comm] at inside
  exact Text.lt_wholeLimit (Nat.lt_trans (Nat.div_lt_of_lt_mul inside) tens) (by decide)

end Double

/-! ## Values -/

namespace Value

mutual

/-- Every number in a value, cut off at the point, is short enough to be written. Those in sets do
not count, since no document prints a set. -/
def Short : Value → Prop
  | .list vs => ShortAll vs
  | .tuple vs => ShortAll vs
  | .mapping es => ShortEntries es
  | v => ∀ n, v.toInt = .ok n → n.natAbs < Text.wholeLimit

def ShortAll : List Value → Prop
  | [] => True
  | v :: vs => Short v ∧ ShortAll vs

def ShortEntries : Record → Prop
  | [] => True
  | (_, v) :: es => Short v ∧ ShortEntries es

end

theorem shortAll_iff {vs : List Value} : ShortAll vs ↔ ∀ v ∈ vs, v.Short := by
  induction vs with
  | nil => simp [ShortAll]
  | cons v vs ih => rw [ShortAll, List.forall_mem_cons, ih]

theorem shortEntries_iff {es : Record} : ShortEntries es ↔ ∀ e ∈ es, e.2.Short := by
  induction es with
  | nil => simp [ShortEntries]
  | cons e es ih => rw [ShortEntries, List.forall_mem_cons, ih]

theorem Short.toInt_lt {v : Value} {n : Int} (short : v.Short) (h : v.toInt = .ok n) :
    n.natAbs < Text.wholeLimit := by
  cases v with
  | list vs => exact absurd h (by simp [toInt])
  | tuple vs => exact absurd h (by simp [toInt])
  | mapping es => exact absurd h (by simp [toInt])
  | null => exact short n h
  | bool b => exact short n h
  | int m => exact short n h
  | double x => exact short n h
  | text s => exact short n h
  | bytes b => exact short n h
  | date d => exact short n h
  | dateTime t => exact short n h
  | zoned t z => exact short n h
  | set vs => exact short n h

theorem ShortEntries.get? {es : Record} {key : String} {v : Value} (short : ShortEntries es)
    (h : Record.get? es key = some v) : v.Short := by
  obtain ⟨e, member, rfl⟩ := Record.exists_mem_of_get? h
  exact shortEntries_iff.1 short e member

theorem Short.require {v w : Value} {key : String} (short : v.Short) (h : v.require key = .ok w) :
    w.Short := by
  unfold Value.require at h
  split at h
  · split at h
    · rename_i found
      obtain rfl := Except.ok.inj h
      exact ShortEntries.get? short found
    · exact absurd h (by simp)
  · exact absurd h (by simp)

theorem short_of_toInt {v : Value} (items : v.items? = none) (record : v.record? = none)
    (h : ∀ n, v.toInt = .ok n → n.natAbs < Text.wholeLimit) : v.Short := by
  cases v with
  | list vs => exact absurd items (by simp [items?])
  | tuple vs => exact absurd items (by simp [items?])
  | mapping es => exact absurd record (by simp [record?])
  | null => exact h
  | bool b => exact h
  | int m => exact h
  | double x => exact h
  | text s => exact h
  | bytes b => exact h
  | date d => exact h
  | dateTime t => exact h
  | zoned t z => exact h
  | set vs => exact h

theorem short_bool (b : Bool) : (bool b).Short := by
  apply short_of_toInt rfl rfl
  intro n same
  obtain rfl := Except.ok.inj same
  apply Text.lt_wholeLimit (k := 1) _ (by decide)
  cases b <;> decide

theorem short_int {n : Int} (h : n.natAbs < Text.wholeLimit) : (int n).Short := by
  apply short_of_toInt rfl rfl
  intro m same
  obtain rfl := Except.ok.inj same
  exact h

theorem short_double {x : Double} (h : x.Bounded) : (double x).Short := by
  apply short_of_toInt rfl rfl
  intro n same
  cases x with
  | finite negative units =>
      obtain rfl := Except.ok.inj same
      rw [Double.signed, natAbs_signed]
      exact h.div_lt
  | infinite negative => exact absurd same (by simp [toInt])
  | nan mark => exact absurd same (by simp [toInt])

theorem digits_lt_of_groupedDigits? {s : List Char} {ds : List Nat}
    (h : Numeral.groupedDigits? s = some ds) : ∀ d ∈ ds, d < 10 := by
  fun_induction Numeral.groupedDigits? s generalizing ds with
  | case1 => exact absurd h (by simp)
  | case2 c =>
      obtain ⟨d, hd, rfl⟩ := Option.map_eq_some_iff.1 h
      simpa using Text.digit?_lt hd
  | case3 c r ih =>
      obtain ⟨d, hd, h⟩ := Option.bind_eq_some_iff.1 h
      obtain ⟨later, hlater, h⟩ := Option.bind_eq_some_iff.1 h
      obtain rfl := Option.some.inj h
      exact List.forall_mem_cons.2 ⟨Text.digit?_lt hd, ih hlater⟩
  | case4 c r _ _ ih =>
      obtain ⟨d, hd, h⟩ := Option.bind_eq_some_iff.1 h
      obtain ⟨later, hlater, h⟩ := Option.bind_eq_some_iff.1 h
      obtain rfl := Option.some.inj h
      exact List.forall_mem_cons.2 ⟨Text.digit?_lt hd, ih hlater⟩

theorem natAbs_lt_of_int? {s : String} {n : Int} (h : Numeral.int? s = some n) :
    n.natAbs < Text.wholeLimit := by
  obtain ⟨ds, digits, h⟩ := Option.bind_eq_some_iff.1 h
  split at h
  · exact absurd h (by simp)
  · rename_i few
    have small : Text.ofDigits ds < Text.wholeLimit :=
      Text.ofDigits_lt_wholeLimit (digits_lt_of_groupedDigits? digits) (Nat.not_lt.1 few)
    obtain rfl := Option.some.inj h
    rw [natAbs_signed]
    exact small

/-- A text spells no number that is too long. -/
theorem short_text (s : String) : (text s).Short := by
  apply short_of_toInt rfl rfl
  intro n same
  rw [toInt, spelledInt] at same
  split at same
  · rename_i m spelled
    obtain rfl := Except.ok.inj same
    exact natAbs_lt_of_int? spelled
  · exact absurd same (by simp)

theorem short_put {es : Record} {key v : Value} (short : ShortEntries es) (h : v.Short) :
    ShortEntries (Record.put es key v) := by
  refine shortEntries_iff.2 fun e inside => ?_
  rcases Record.mem_put inside with same | old
  · rwa [same]
  · exact shortEntries_iff.1 short e old

theorem short_ofPairs {pairs : Record} (short : ShortEntries pairs) :
    ShortEntries (Record.ofPairs pairs) := by
  have all (pairs es : Record) (short : ShortEntries pairs) (before : ShortEntries es) :
      ShortEntries (pairs.foldl (fun r e => r.put e.1 e.2) es) := by
    induction pairs generalizing es with
    | nil => exact before
    | cons e pairs ih => exact ih _ short.2 (short_put before short.1)
  exact all pairs [] short trivial

end Value

/-! ## JSON -/

namespace Json

open Value (ShortAll ShortEntries)

theorem digitsOf_lt {cs : List Char} (digits : ∀ c ∈ cs, c.isDigit = true) :
    ∀ d ∈ digitsOf cs, d < 10 := by
  intro d inside
  obtain ⟨c, member, rfl⟩ := List.mem_map.1 inside
  have bounds := Text.toNat_of_isDigit (digits c member)
  omega

theorem isDigit_readWhole (s : List Char) : ∀ c ∈ (readWhole s).1, c.isDigit = true := by
  unfold readWhole
  split
  · simp
  · exact fun c inside => List.mem_takeWhile_imp inside

theorem short_of_readNumber {s rest : List Char} {v : Value} (h : readNumber s = some (v, rest)) :
    v.Short := by
  unfold readNumber at h
  split at h
  simp only at h
  split at h
  · exact absurd h (by simp)
  · split at h
    · split at h
      · exact absurd h (by simp)
      · rename_i few
        obtain ⟨rfl, -⟩ := Prod.mk.inj (Option.some.inj h)
        apply Value.short_int
        rw [natAbs_signed]
        apply Text.ofDigits_lt_wholeLimit (digitsOf_lt (isDigit_readWhole _))
        rw [digitsOf, List.length_map]
        exact Nat.not_lt.1 few
    · obtain ⟨rfl, -⟩ := Prod.mk.inj (Option.some.inj h)
      exact Value.short_double (Double.bounded_ofDecimal _ _ _)

theorem short_words : ∀ w ∈ words, w.2.Short := by
  have endless (negative : Bool) : (Value.double (.infinite negative)).Short :=
    Value.short_double fun _ _ same => absurd same (by simp)
  have nan : (Value.double (.nan nanMark)).Short :=
    Value.short_double fun _ _ same => absurd same (by simp)
  have null : Value.null.Short := Value.short_of_toInt rfl rfl (by simp [Value.toInt])
  simp only [words, List.forall_mem_cons]
  exact ⟨null, Value.short_bool true, Value.short_bool false, nan, endless false, endless true,
    List.forall_mem_nil _⟩

theorem short_of_readAtom {s rest : List Char} {v : Value} (h : readAtom s = some (v, rest)) :
    v.Short := by
  unfold readAtom at h
  split at h
  · rename_i p found
    obtain ⟨w, member, cut⟩ := List.exists_of_findSome?_eq_some found
    obtain ⟨r, -, same⟩ := Option.map_eq_some_iff.1 cut
    obtain rfl := Option.some.inj h
    obtain ⟨rfl, -⟩ := Prod.mk.inj same
    exact short_words w member
  · exact short_of_readNumber h

/-- What is read in JSON is short, value by value. -/
theorem short_of_readAll (n : Nat) :
    (∀ s v rest, readValue n s = some (v, rest) → v.Short) ∧
    (∀ s vs rest, readItems n s = some (vs, rest) → ShortAll vs) ∧
    (∀ s es rest, readEntries n s = some (es, rest) → ShortEntries es) := by
  induction n with
  | zero =>
      refine ⟨?_, ?_, ?_⟩
      · intro s v rest h
        exact absurd h (by simp [readValue])
      · intro s vs rest h
        exact absurd h (by simp [readItems])
      · intro s es rest h
        exact absurd h (by simp [readEntries])
  | succ n ih =>
      obtain ⟨values, items, entries⟩ := ih
      refine ⟨?_, ?_, ?_⟩
      · intro s v rest h
        unfold readValue at h
        split at h
        · obtain ⟨p, -, same⟩ := Option.map_eq_some_iff.1 h
          obtain ⟨rfl, -⟩ := Prod.mk.inj same
          exact Value.short_text _
        · split at h
          · obtain ⟨rfl, -⟩ := Prod.mk.inj (Option.some.inj h)
            exact trivial
          · obtain ⟨p, read, same⟩ := Option.map_eq_some_iff.1 h
            obtain ⟨rfl, -⟩ := Prod.mk.inj same
            exact items _ _ _ read
        · split at h
          · obtain ⟨rfl, -⟩ := Prod.mk.inj (Option.some.inj h)
            exact trivial
          · obtain ⟨p, read, same⟩ := Option.map_eq_some_iff.1 h
            obtain ⟨rfl, -⟩ := Prod.mk.inj same
            exact Value.short_ofPairs (entries _ _ _ read)
        · exact short_of_readAtom h
      · intro s vs rest h
        unfold readItems at h
        obtain ⟨p, first, h⟩ := Option.bind_eq_some_iff.1 h
        have head := values _ _ _ first
        simp only at h
        split at h
        · obtain ⟨rfl, -⟩ := Prod.mk.inj (Option.some.inj h)
          exact ⟨head, trivial⟩
        · obtain ⟨q, later, h⟩ := Option.bind_eq_some_iff.1 h
          obtain ⟨rfl, -⟩ := Prod.mk.inj (Option.some.inj h)
          exact ⟨head, items _ _ _ later⟩
        · exact absurd h (by simp)
      · intro s es rest h
        unfold readEntries at h
        split at h
        · obtain ⟨key, -, h⟩ := Option.bind_eq_some_iff.1 h
          simp only at h
          split at h
          · obtain ⟨p, first, h⟩ := Option.bind_eq_some_iff.1 h
            have head := values _ _ _ first
            split at h
            · obtain ⟨rfl, -⟩ := Prod.mk.inj (Option.some.inj h)
              exact ⟨head, trivial⟩
            · obtain ⟨q, later, h⟩ := Option.bind_eq_some_iff.1 h
              obtain ⟨rfl, -⟩ := Prod.mk.inj (Option.some.inj h)
              exact ⟨head, entries _ _ _ later⟩
            · exact absurd h (by simp)
          · exact absurd h (by simp)
        · exact absurd h (by simp)

theorem short_of_read {text : String} {v : Value} (h : read text = some v) : v.Short := by
  unfold read at h
  simp only at h
  split at h
  · rename_i found
    split at h
    · obtain rfl := Option.some.inj h
      exact (short_of_readAll _).1 _ _ _ found
    · exact absurd h (by simp)
  · exact absurd h (by simp)

end Json

/-! ## Registers -/

namespace Register

variable {r : Register} {c : Series × Int}

theorem short_last (short : ∀ c ∈ r.counters, Short c) (s : Series) :
    (r.last s).natAbs < Text.wholeLimit := by
  rw [last]
  cases found : r.get? s with
  | none => exact Text.lt_wholeLimit (k := 1) (by decide) (by decide)
  | some n => exact (short _ (Keyed.mem_of_lookup found)).2

theorem short_put (short : ∀ c ∈ r.counters, Short c) (h : Short c) :
    ∀ d ∈ (r.put c.1 c.2).counters, Short d := by
  intro d inside
  rcases Keyed.mem_put inside with rfl | old
  · exact h
  · exact short d old

theorem short_raise (short : ∀ c ∈ r.counters, Short c) (h : Short c) :
    ∀ d ∈ (r.raise c).counters, Short d := by
  apply short_put (c := (c.1, max c.2 (r.last c.1))) short
  refine ⟨h.1, ?_⟩
  rcases max_choice c.2 (r.last c.1) with greater | greater
  · rw [greater]
    exact h.2
  · rw [greater]
    exact short_last short c.1

theorem short_of_counterOf {v : Value} (short : v.Short) (h : counterOf v = .ok c) : Short c := by
  obtain ⟨-, ⟨year, found, whole⟩, ⟨value, found', whole'⟩, -⟩ := counterOf_eq_ok_iff.1 h
  exact ⟨(short.require found).toInt_lt whole, (short.require found').toInt_lt whole'⟩

theorem short_of_ofValue {v : Value} (short : v.Short) (h : ofValue v = .ok r) :
    ∀ c ∈ r.counters, Short c := by
  unfold ofValue at h
  split at h
  · rename_i entries listed
    obtain ⟨es, record, found⟩ := Option.bind_eq_some_iff.1 listed
    have list : ∀ w ∈ entries, w.Short := by
      cases v with
      | mapping es' =>
          obtain rfl := Option.some.inj record
          exact Value.shortAll_iff.1 (Value.ShortEntries.get? short found)
      | _ => exact absurd record (by simp [Value.record?])
    obtain ⟨cs, hcs, h⟩ := bind_eq_ok.1 h
    obtain rfl := Except.ok.inj h
    have each : ∀ c ∈ cs, Short c := by
      intro c hc
      obtain ⟨w, member, hw⟩ := exists_of_mem_mapM hcs hc
      exact short_of_counterOf (list w member) hw
    have all (cs : List (Series × Int)) (each : ∀ c ∈ cs, Short c) (r : Register)
        (short : ∀ c ∈ r.counters, Short c) : ∀ c ∈ (cs.foldl raise r).counters, Short c := by
      induction cs generalizing r with
      | nil => exact short
      | cons c cs ih =>
          rw [List.forall_mem_cons] at each
          exact ih each.2 _ (short_raise short each.1)
    exact all cs each empty fun c inside => absurd inside List.not_mem_nil
  · exact absurd h (by simp)

end Register

/-- A register that is loaded holds short numbers only. -/
theorem Numbering.short_of_load {d : Disk} {file : Location} {r : Register}
    (h : load d file = .ok r) : ∀ c ∈ r.counters, Register.Short c := by
  unfold load at h
  split at h
  · obtain rfl := Except.ok.inj h
    exact fun c inside => absurd inside List.not_mem_nil
  · split at h
    · obtain rfl := Except.ok.inj h
      exact fun c inside => absurd inside List.not_mem_nil
    · rename_i v read
      obtain ⟨text, -, read⟩ := Option.bind_eq_some_iff.1 read
      split at h
      · rename_i found
        obtain rfl := Except.ok.inj h
        exact Register.short_of_ofValue (Json.short_of_read read) found
      · exact absurd h (by simp)
      · obtain rfl := Except.ok.inj h
        exact fun c inside => absurd inside List.not_mem_nil

end MinuteBook
