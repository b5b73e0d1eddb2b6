import MinuteBook.Value.Equality

/-!
# Records

The entries of a mapping. Of keys that agree a record holds one. `find?_put_text` and `get?_set` say
what writing a key does to every look-up.
-/

namespace MinuteBook.Record

/-- The value under a key. -/
def find? (r : Record) (key : Value) : Option Value :=
  (List.find? (fun e => e.1.agrees key) r).map Prod.snd

/-- Writes a value under a key: in the place of the old value, where the old key stays, or at the
end. -/
def put : Record → Value → Value → Record
  | [], key, v => [(key, v)]
  | (k, w) :: r, key, v => if k.agrees key then (k, v) :: r else (k, w) :: put r key v

/-- The record that results from writing the pairs one after another. -/
def ofPairs (pairs : Record) : Record := pairs.foldl (fun r e => r.put e.1 e.2) []

def keys (r : Record) : List Value := r.map Prod.fst

/-- Every entry of a record into which a value has been written holds that value or is an old
one. -/
theorem mem_put {r : Record} {key v : Value} {e : Value × Value} (h : e ∈ r.put key v) :
    e.2 = v ∨ e ∈ r := by
  induction r with
  | nil =>
    obtain rfl := List.mem_singleton.1 h
    exact .inl rfl
  | cons first r ih =>
    obtain ⟨k, w⟩ := first
    rw [put] at h
    split at h
    · rcases List.mem_cons.1 h with rfl | later
      · exact .inl rfl
      · exact .inr (List.mem_cons_of_mem _ later)
    · rcases List.mem_cons.1 h with rfl | later
      · exact .inr List.mem_cons_self
      · exact (ih later).imp_right (List.mem_cons_of_mem _)

/-! ## Text keys -/

/-- The value under a text. -/
def get? (r : Record) (key : String) : Option Value := r.find? (.text key)

/-- Writes a value under a text. -/
def set (r : Record) (key : String) (v : Value) : Record := r.put (.text key) v

@[simp] theorem get?_nil (key : String) : get? [] key = none := rfl

theorem get?_cons (k w : Value) (r : Record) (key : String) :
    get? ((k, w) :: r) key = if k = .text key then some w else get? r key := by
  simp only [get?, find?, List.find?_cons]
  by_cases h : k = .text key
  · simp [h, Value.agrees_text_iff.2]
  · simp [h, Bool.eq_false_iff.2 (mt Value.agrees_text_iff.1 h)]

theorem get?_append (r r' : Record) (key : String) :
    get? (r ++ r') key = (get? r key).or (get? r' key) := by
  induction r with
  | nil => rfl
  | cons e r ih =>
    rw [List.cons_append, get?_cons, get?_cons, ih]
    split <;> rfl

theorem mem_values_of_get? {r : Record} {key : String} {v : Value} (h : get? r key = some v) :
    v ∈ r.map Prod.snd := by
  obtain ⟨e, found, rfl⟩ := Option.map_eq_some_iff.1 h
  exact List.mem_map_of_mem (List.mem_of_find?_eq_some found)

theorem exists_mem_of_get? {r : Record} {key : String} {v : Value} (h : get? r key = some v) :
    ∃ e ∈ r, e.2 = v :=
  List.mem_map.1 (mem_values_of_get? h)

theorem get?_set (r : Record) (key key' : String) (v : Value) :
    get? (set r key v) key' = if key' = key then some v else get? r key' := by
  induction r with
  | nil => simp [set, put, get?_cons, eq_comm]
  | cons e r ih =>
    obtain ⟨k, w⟩ := e
    by_cases hk : k = .text key
    · subst hk
      by_cases h : key' = key
      · subst h; simp [set, put, get?_cons, Value.agrees_text_iff.2]
      · simp [set, put, get?_cons, Value.agrees_text_iff.2, h, Ne.symm h]
    · have hf := Bool.eq_false_iff.2 (mt Value.agrees_text_iff.1 hk)
      simp only [set] at ih
      by_cases h : key' = key
      · subst h; simp [set, put, hf, get?_cons, hk, ih]
      · simp [set, put, hf, get?_cons, ih, h]

@[simp] theorem get?_set_self (r : Record) (key : String) (v : Value) :
    get? (set r key v) key = some v := by
  simp [get?_set]

theorem get?_set_of_ne (r : Record) {key key' : String} (h : key ≠ key') (v : Value) :
    get? (set r key v) key' = get? r key' := by
  simp [get?_set, Ne.symm h]

end MinuteBook.Record
