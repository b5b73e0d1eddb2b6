import MinuteBook.Value.Equality

/-!
# Every value agrees with itself

Data are compared as keys and items are, so even NaN agrees with itself.
-/

namespace MinuteBook

theorem Double.agrees_self (x : Double) : x.agrees x = true := by
  cases x <;> simp [agrees, equals]

namespace Value

mutual

theorem agrees_self (v : Value) : v.agrees v = true := by
  match v with
  | .null => simp [agrees]
  | .bool b => simp [agrees, numbersEqual, number?, Number.equals]
  | .int n => simp [agrees, numbersEqual, number?, Number.equals]
  | .double x =>
      simp only [agrees]
      exact x.agrees_self
  | .text s => simp [agrees, text?]
  | .bytes b => simp [agrees]
  | .date d => simp [agrees]
  | .dateTime t => simp [agrees]
  | .zoned t z => simp [agrees]
  | .list vs =>
      simp only [agrees]
      exact agreesAll_self vs
  | .tuple vs =>
      simp only [agrees]
      exact agreesAll_self vs
  | .set vs =>
      simp only [agrees, BEq.rfl, Bool.true_and]
      exact agreesItems_of_subset vs fun _ member => member
  | .mapping es =>
      simp only [agrees, BEq.rfl, Bool.true_and]
      exact agreesEntries_of_subset es fun _ member => member

theorem agreesAll_self (vs : List Value) : agreesAll vs vs = true := by
  match vs with
  | [] => simp [agreesAll]
  | v :: vs =>
      simp only [agreesAll]
      rw [agrees_self v, agreesAll_self vs]
      rfl

/-- Items that are among others are found there again. -/
theorem agreesItems_of_subset (vs : List Value) {ws : List Value} (h : ∀ v ∈ vs, v ∈ ws) :
    agreesItems vs ws = true := by
  match vs with
  | [] => simp [agreesItems]
  | v :: vs =>
      rw [List.forall_mem_cons] at h
      rw [agreesItems, agreesItems_of_subset vs h.2, Bool.and_true, List.any_eq_true]
      exact ⟨v, h.1, agrees_self v⟩

/-- Entries that are among others are found there again. -/
theorem agreesEntries_of_subset (es : Record) {es' : Record} (h : ∀ e ∈ es, e ∈ es') :
    agreesEntries es es' = true := by
  match es with
  | [] => simp [agreesEntries]
  | (k, v) :: es =>
      rw [List.forall_mem_cons] at h
      rw [agreesEntries, agreesEntries_of_subset es h.2, Bool.and_true, List.any_eq_true]
      exact ⟨_, h.1, by rw [agrees_self k, agrees_self v]; rfl⟩

end

end Value

end MinuteBook
