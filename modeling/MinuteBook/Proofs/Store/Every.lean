import MinuteBook.Proofs.Store.Agreement

/-!
# What all answers have in common

Some properties of a value are passed on to its parts (`Value.Inherited`). If all answers in a store
have such a property, so has everything that is found there, apart from the description of the
template (`Store.Every.lookup`), and every item of a list (`Store.Every.itemsAt`). So it is kept
when a block repeats its children, where the item is written under a key (`Store.Every.set`).
-/

namespace MinuteBook

variable {P : Value → Prop}

namespace Value

/-- A property that a value passes on to its items and to its entries. -/
structure Inherited (P : Value → Prop) : Prop where
  items {v : Value} {vs : List Value} : v.items? = some vs → P v → ∀ item ∈ vs, P item
  entries {es : Record} : P (.mapping es) → ∀ e ∈ es, P e.2

end Value

namespace Store

variable {s : Store} {path : String} {v w : Value}

/-- All answers have a property. -/
def Every (P : Value → Prop) (s : Store) : Prop := ∀ e ∈ s.values, P e.2

theorem Every.set (h : s.Every P) (key : String) (new : P v) : (s.set key v).Every P := by
  intro e inside
  rcases Record.mem_put inside with same | old
  · rwa [same]
  · exact h e old

theorem Every.get? {key : String} (h : s.Every P) (found : Record.get? s.values key = some v) :
    P v := by
  obtain ⟨e, inside, rfl⟩ := Record.exists_mem_of_get? found
  exact h e inside

theorem Leads.inherited (inherited : Value.Inherited P) {segments : List String}
    (leads : Leads v segments w) (h : P v) : P w := by
  induction leads with
  | here v => exact h
  | entry found _ ih =>
      obtain ⟨e, inside, rfl⟩ := Record.exists_mem_of_get? found
      exact ih (inherited.entries h e inside)

/-- What is found has the property, or is the description of the template. -/
theorem Every.lookup (inherited : Value.Inherited P) (h : s.Every P)
    (found : s.lookup path = some v) : P v ∨ v = .mapping s.template := by
  have read : s.get path = .ok v := by
    rw [Store.lookup] at found
    cases result : s.get path with
    | error e => simp [result, Except.toOption] at found
    | ok w => simpa [result, Except.toOption] using found
  rw [get_eq] at read
  split at read
  · exact absurd read (by simp)
  · split at read
    · exact .inr (Except.ok.inj read).symm
    · split at read
      · rename_i answer
        exact .inl ((walk_eq_ok_iff.1 read).inherited inherited (h.get? answer))
      · exact absurd read (by simp)

/-- The items at a path have the property. -/
theorem Every.itemsAt (inherited : Value.Inherited P) (h : s.Every P) :
    ∀ item ∈ Markup.itemsAt s path, P item := by
  rw [Markup.itemsAt]
  split
  · exact List.forall_mem_nil _
  · rw [lookupOrNull]
    cases found : s.lookup path with
    | none => exact List.forall_mem_nil _
    | some v =>
        rcases h.lookup inherited found with within | rfl
        · cases items : v.items? with
          | none => simp [items]
          | some vs => simpa [items] using inherited.items items within
        · exact List.forall_mem_nil _

end Store

end MinuteBook
