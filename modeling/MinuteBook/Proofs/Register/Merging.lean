import Mathlib.Order.Bounds.Basic
import MinuteBook.Proofs.Register.Canonical
import MinuteBook.Proofs.Register.Entries

/-!
# Rows of one series

A register file may hold several rows for one series, also under keys that look different: a year as
a number and as a text, an entity as a text and as a number. `rows_merged` says what comes of a list
of rows. Each row has to be accepted, and then a counter is the greatest value that stands in a row
of its series (`get?_eq_some_iff_isGreatest`), whatever the order of the rows and however often one
of them is repeated.
-/

namespace MinuteBook.Register

/-- What a file holds that lists rows. -/
def listing (rows : List Value) : Value := .mapping [("counters", .list rows)]

/-- The values in those rows that spell a counter of a series. -/
def numbers (rows : List Value) (s : Series) : Set Int := {k | ∃ row ∈ rows, Spells row (s, k)}

variable {rows rows' : List Value} {row : Value} {r r' : Register} {s : Series} {k : Int}
  {e : Error}

/-! ## Rows that are accepted -/

theorem ofValue_listing (rows : List Value) :
    ofValue (listing rows) = do return (← rows.mapM counterOf).foldl raise empty :=
  ofValue_eq (listing rows)

theorem ofValue_listing_eq_ok_iff : ofValue (listing rows) = .ok r ↔
    ∃ cs, rows.mapM counterOf = .ok cs ∧ cs.foldl raise empty = r := by
  rw [ofValue_listing, bind_eq_ok]
  simp [pure, Except.pure]

theorem ofValue_listing_eq_error_iff :
    ofValue (listing rows) = .error e ↔ rows.mapM counterOf = .error e := by
  rw [ofValue_listing, bind_eq_error]
  simp [pure, Except.pure]

theorem accepted_iff :
    (∃ r, ofValue (listing rows) = .ok r) ↔ ∀ row ∈ rows, ∃ c, Spells row c := by
  simp only [← counterOf_eq_ok_iff, ← exists_mapM_eq_ok_iff, ofValue_listing_eq_ok_iff]
  constructor
  · rintro ⟨_, cs, read, -⟩
    exact ⟨cs, read⟩
  · rintro ⟨cs, read⟩
    exact ⟨_, cs, read, rfl⟩

theorem accepted_singleton_iff : (∃ r, ofValue (listing [row]) = .ok r) ↔ ∃ c, Spells row c := by
  rw [accepted_iff, List.forall_mem_singleton]

/-- By itself a row is rejected with the error that reading its counter gives. -/
theorem ofValue_listing_singleton_eq_error_iff :
    ofValue (listing [row]) = .error e ↔ counterOf row = .error e := by
  rw [ofValue_listing_eq_error_iff, List.mapM_cons, List.mapM_nil]
  cases counterOf row <;> simp [pure, Except.pure]

/-- A list is rejected for the first row that is rejected by itself, and with its message. -/
theorem rejected_iff : ofValue (listing rows) = .error e ↔ ∃ before row after,
    rows = before ++ row :: after ∧ (∀ b ∈ before, ∃ r, ofValue (listing [b]) = .ok r) ∧
      ofValue (listing [row]) = .error e := by
  rw [ofValue_listing_eq_error_iff, mapM_eq_error_iff]
  simp only [accepted_singleton_iff, ofValue_listing_singleton_eq_error_iff, counterOf_eq_ok_iff]

/-! ## The greatest value -/

theorem mem_iff_of_mapM_counterOf {cs : List (Series × Int)} (read : rows.mapM counterOf = .ok cs) :
    (s, k) ∈ cs ↔ k ∈ numbers rows s := by
  constructor
  · intro listed
    obtain ⟨row, held, spells⟩ := exists_of_mem_mapM read listed
    exact ⟨row, held, counterOf_eq_ok_iff.1 spells⟩
  · rintro ⟨row, held, spells⟩
    obtain ⟨c, listed, read⟩ := exists_mem_of_mapM read held
    rw [counterOf_eq_ok_iff.2 spells, Except.ok.injEq] at read
    exact read ▸ listed

/-- The counter of a series is the greatest value in its rows. -/
theorem get?_eq_some_iff_isGreatest (h : ofValue (listing rows) = .ok r) :
    r.get? s = some k ↔ IsGreatest (numbers rows s) k := by
  obtain ⟨cs, read, rfl⟩ := ofValue_listing_eq_ok_iff.1 h
  have nonneg : ∀ c ∈ cs, 0 ≤ c.2 := by
    intro c listed
    obtain ⟨row, -, spells⟩ := exists_of_mem_mapM read listed
    exact nonneg_of_counterOf spells
  rw [get?_foldl_raise_iff nonneg, mem_iff_of_mapM_counterOf read]
  refine and_congr_right fun _ => ⟨?_, ?_⟩
  · intro largest j spelled
    exact largest (s, j) ((mem_iff_of_mapM_counterOf read).2 spelled) rfl
  · rintro largest ⟨t, j⟩ listed rfl
    exact largest ((mem_iff_of_mapM_counterOf read).1 listed)

/-- A series without rows has no counter, and no other is without one. -/
theorem get?_eq_none_iff_numbers (h : ofValue (listing rows) = .ok r) :
    r.get? s = none ↔ numbers rows s = ∅ := by
  rw [Set.eq_empty_iff_forall_notMem]
  constructor
  · intro none k spelled
    obtain ⟨cs, read, rfl⟩ := ofValue_listing_eq_ok_iff.1 h
    have listed := (mem_iff_of_mapM_counterOf read).2 spelled
    have some := isSome_foldl_raise (r := empty)
      (.inl (List.mem_map_of_mem (f := Prod.fst) listed))
    rw [none] at some
    exact absurd some (by simp)
  · intro empty
    cases found : r.get? s with
    | none => rfl
    | some k => exact absurd ((get?_eq_some_iff_isGreatest h).1 found).1 (empty k)

/-- Lists with the same values for a series give it the same counter. -/
theorem get?_eq_of_numbers (h : ofValue (listing rows) = .ok r)
    (h' : ofValue (listing rows') = .ok r') (same : numbers rows s = numbers rows' s) :
    r.get? s = r'.get? s := by
  apply Option.ext
  intro k
  rw [get?_eq_some_iff_isGreatest h, get?_eq_some_iff_isGreatest h', same]

/-! ## Lists put together -/

theorem numbers_append (rows rows' : List Value) (s : Series) :
    numbers (rows ++ rows') s = numbers rows s ∪ numbers rows' s := by
  ext k
  simp only [numbers, Set.mem_ofPred_eq, Set.mem_union, List.mem_append, or_and_right, exists_or]

theorem numbers_congr (same : ∀ row, row ∈ rows ↔ row ∈ rows') (s : Series) :
    numbers rows s = numbers rows' s := by
  simp only [numbers, same]

/-- Behind each other, two lists give each series the larger of its two counters. -/
theorem get?_append (h : ofValue (listing rows) = .ok r) (h' : ofValue (listing rows') = .ok r')
    {q : Register} (both : ofValue (listing (rows ++ rows')) = .ok q) (s : Series) :
    q.get? s = Option.merge max (r.get? s) (r'.get? s) := by
  cases found : r.get? s with
  | none =>
      have none := (get?_eq_none_iff_numbers h).1 found
      rw [Option.merge_none_left, get?_eq_of_numbers both h']
      rw [numbers_append, none, Set.empty_union]
  | some k =>
      cases found' : r'.get? s with
      | none =>
          have none := (get?_eq_none_iff_numbers h').1 found'
          rw [Option.merge_none_right, ← found, get?_eq_of_numbers both h]
          rw [numbers_append, none, Set.union_empty]
      | some k' =>
          have greatest := (get?_eq_some_iff_isGreatest h).1 found
          have greatest' := (get?_eq_some_iff_isGreatest h').1 found'
          rw [Option.merge_some_some, get?_eq_some_iff_isGreatest both, numbers_append]
          exact greatest.union greatest'

/-- Reading a list of rows. It is accepted if each of its rows is accepted by itself, which it is if
it spells a counter, and rejected as the first of them that is not. A counter is the greatest value
in the rows of its series, and there is none without such rows. Two lists behind each other give
each series the larger of its counters, and lists of the same rows, in whatever order and however
often repeated, give registers that agree. -/
theorem rows_merged (rows : List Value) :
    ((∃ r, ofValue (listing rows) = .ok r) ↔
      ∀ row ∈ rows, ∃ r, ofValue (listing [row]) = .ok r) ∧
    (∀ row, (∃ r, ofValue (listing [row]) = .ok r) ↔ ∃ c, Spells row c) ∧
    (∀ e, ofValue (listing rows) = .error e ↔ ∃ before row after,
      rows = before ++ row :: after ∧ (∀ b ∈ before, ∃ r, ofValue (listing [b]) = .ok r) ∧
        ofValue (listing [row]) = .error e) ∧
    ∀ r, ofValue (listing rows) = .ok r →
      (∀ s k, r.get? s = some k ↔ IsGreatest (numbers rows s) k) ∧
      (∀ s, r.get? s = none ↔ numbers rows s = ∅) ∧
      (∀ rows' r', ofValue (listing rows') = .ok r' → ∃ q,
        ofValue (listing (rows ++ rows')) = .ok q ∧
          ∀ s, q.get? s = Option.merge max (r.get? s) (r'.get? s)) ∧
      ∀ rows', (∀ row, row ∈ rows' ↔ row ∈ rows) →
        ∃ q, ofValue (listing rows') = .ok q ∧ q.agrees r = true := by
  refine ⟨?_, fun row => accepted_singleton_iff, fun e => rejected_iff, ?_⟩
  · simp only [accepted_singleton_iff, accepted_iff]
  intro r h
  have spelled := accepted_iff.1 ⟨r, h⟩
  refine ⟨fun s k => get?_eq_some_iff_isGreatest h, fun s => get?_eq_none_iff_numbers h, ?_, ?_⟩
  · intro rows' r' h'
    obtain ⟨q, both⟩ := accepted_iff.2
      (List.forall_mem_append.2 ⟨spelled, accepted_iff.1 ⟨r', h'⟩⟩)
    exact ⟨q, both, get?_append h h' both⟩
  · intro rows' same
    obtain ⟨q, read⟩ := accepted_iff.2 fun row held => spelled row ((same row).1 held)
    refine ⟨q, read, (agrees_iff (sound_of_ofValue read).distinct
      (sound_of_ofValue h).distinct).2 fun s => ?_⟩
    exact get?_eq_of_numbers read h (numbers_congr same s)

/-- A row with any values. -/
def rowOf (entity year value : Value) : Value :=
  .mapping [("entityId", entity), ("year", year), ("value", value)]

/-- Two rows of one series, the smaller number last and under another spelling. -/
def respelled : List Value :=
  [rowOf (.text "7") (.int 2025) (.int 3), rowOf (.int 7) (.text " 2025") (.bool true)]

/-- The larger number stays, whichever row comes first; a third row raises it, and a negative one
spoils the list. -/
theorem rows_merged_of_respelled :
    ∃ r, ofValue (listing respelled) = .ok r ∧
      r.get? ⟨"7", 2025⟩ = some 3 ∧ r.get? ⟨"7", 2024⟩ = none ∧
      (∃ q, ofValue (listing (respelled ++ [rowOf (.int 7) (.int 2025) (.text "5")])) = .ok q ∧
        q.get? ⟨"7", 2025⟩ = some 5) ∧
      (∃ q, ofValue (listing (respelled.reverse ++ respelled)) = .ok q ∧ q.agrees r = true) ∧
      ¬ ∃ q, ofValue (listing (rowOf (.int 7) (.int 2025) (.int (-1)) :: respelled)) = .ok q := by
  have read : ofValue (listing respelled) = .ok ⟨[(⟨"7", 2025⟩, 3)]⟩ := by decide +kernel
  have more : ofValue (listing [rowOf (.int 7) (.int 2025) (.text "5")]) =
      .ok ⟨[(⟨"7", 2025⟩, 5)]⟩ := by decide +kernel
  have negative : ofValue (listing [rowOf (.int 7) (.int 2025) (.int (-1))]) =
      .error (.negative "(\x277\x27, 2025)") := by decide +kernel
  obtain ⟨-, -, -, merged⟩ := rows_merged respelled
  obtain ⟨-, -, joined, reordered⟩ := merged _ read
  obtain ⟨q, both, larger⟩ := joined _ _ more
  refine ⟨_, read, rfl, rfl, ⟨q, both, larger ⟨"7", 2025⟩⟩, reordered _ (by simp), ?_⟩
  rw [(rows_merged _).1]
  intro each
  obtain ⟨q, single⟩ := each _ List.mem_cons_self
  rw [negative] at single
  exact absurd single (by simp)

end MinuteBook.Register
