/-!
# Keyed lists

A list of pairs that holds one value for each key, in the order in which the keys came in.
`lookup_put` says what writing a key does to every look-up.
-/

namespace MinuteBook.Keyed

variable {κ : Type} {β : Type} [DecidableEq κ]

/-- Writes a value under a key: in the place of the old value, or at the end. -/
def put : List (κ × β) → κ → β → List (κ × β)
  | [], key, v => [(key, v)]
  | (k, w) :: r, key, v => if k = key then (key, v) :: r else (k, w) :: put r key v

/-- The list that results from writing pairs one after another. -/
def ofPairs (pairs : List (κ × β)) : List (κ × β) := pairs.foldl (fun r p => put r p.1 p.2) []

theorem lookup_put (r : List (κ × β)) (key key' : κ) (v : β) :
    (put r key v).lookup key' = if key' = key then some v else r.lookup key' := by
  induction r with
  | nil => by_cases h : key' = key <;> simp [put, List.lookup_cons, h, beq_eq_false_iff_ne.2]
  | cons e r ih =>
    obtain ⟨k, w⟩ := e
    by_cases hk : k = key
    · subst hk
      by_cases h : key' = k
      · simp [put, h]
      · simp [put, List.lookup_cons, h, beq_eq_false_iff_ne.2 h]
    · by_cases h : key' = k
      · subst h; simp [put, hk]
      · simp [put, hk, List.lookup_cons, beq_eq_false_iff_ne.2 h, ih]

end MinuteBook.Keyed
