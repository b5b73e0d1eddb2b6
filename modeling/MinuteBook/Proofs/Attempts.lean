import Mathlib.Data.List.Forall2

/-!
# Steps that may fail

A chain of steps ends well exactly if each of its steps does. These are the lemmas by which later
proofs take such chains apart and put them together.
-/

namespace MinuteBook

variable {ε α β γ : Type}

theorem bind_eq_ok {x : Except ε α} {f : α → Except ε β} {b : β} :
    (x >>= f) = .ok b ↔ ∃ a, x = .ok a ∧ f a = .ok b := by
  cases x with
  | error e => simp [bind, Except.bind]
  | ok a => simp [bind, Except.bind]

theorem bind_eq_error {x : Except ε α} {f : α → Except ε β} {e : ε} :
    (x >>= f) = .error e ↔ x = .error e ∨ ∃ a, x = .ok a ∧ f a = .error e := by
  cases x with
  | error e' => simp [bind, Except.bind]
  | ok a => simp [bind, Except.bind]

@[simp] theorem ok_bind (a : α) (f : α → Except ε β) : (Except.ok a >>= f) = f a := rfl

@[simp] theorem error_bind (e : ε) (f : α → Except ε β) :
    (Except.error e >>= f) = .error e := rfl

theorem mapError_eq_ok {g : ε → γ} {x : Except ε α} {a : α} :
    x.mapError g = .ok a ↔ x = .ok a := by
  cases x <;> simp [Except.mapError]

theorem mapError_eq_error {g : ε → γ} {x : Except ε α} {e : γ} :
    x.mapError g = .error e ↔ ∃ e', x = .error e' ∧ g e' = e := by
  cases x <;> simp [Except.mapError]

theorem mapM_congr {f g : α → Except ε β} {xs : List α} (h : ∀ a ∈ xs, f a = g a) :
    xs.mapM f = xs.mapM g := by
  induction xs with
  | nil => rfl
  | cons a xs ih =>
      rw [List.forall_mem_cons] at h
      rw [List.mapM_cons, List.mapM_cons, h.1, ih h.2]

/-- Steps that all end well, each with a known result. -/
theorem mapM_eq_ok_map {f : α → Except ε β} {g : α → β} {xs : List α}
    (h : ∀ a ∈ xs, f a = .ok (g a)) : xs.mapM f = .ok (xs.map g) := by
  induction xs with
  | nil => rfl
  | cons a xs ih =>
      rw [List.forall_mem_cons] at h
      rw [List.mapM_cons, h.1, ok_bind, ih h.2]
      rfl

/-- What is done with each result may be done with all of them at the end. -/
theorem mapM_result (g : β → γ) (f : α → Except ε β) (xs : List α) :
    (xs.mapM fun a => do return g (← f a)) = do return (← xs.mapM f).map g := by
  induction xs with
  | nil => rfl
  | cons a xs ih =>
      rw [List.mapM_cons, List.mapM_cons, ih]
      cases f a with
      | error e => rfl
      | ok b => cases xs.mapM f <;> rfl

/-- Every result comes from one of the steps. -/
theorem exists_of_mem_mapM {f : α → Except ε β} {xs : List α} {ys : List β}
    (h : xs.mapM f = .ok ys) {b : β} (hb : b ∈ ys) : ∃ a ∈ xs, f a = .ok b := by
  induction xs generalizing ys with
  | nil =>
      obtain rfl : [] = ys := Except.ok.inj h
      exact absurd hb List.not_mem_nil
  | cons a xs ih =>
      rw [List.mapM_cons] at h
      obtain ⟨b', hb', h⟩ := bind_eq_ok.1 h
      obtain ⟨ys', hys, h⟩ := bind_eq_ok.1 h
      obtain rfl : b' :: ys' = ys := Except.ok.inj h
      rcases List.mem_cons.1 hb with rfl | later
      · exact ⟨a, List.mem_cons_self, hb'⟩
      · obtain ⟨a', ha', hf⟩ := ih hys later
        exact ⟨a', List.mem_cons_of_mem a ha', hf⟩

theorem mapM_eq_ok_iff {f : α → Except ε β} {xs : List α} {ys : List β} :
    xs.mapM f = .ok ys ↔ List.Forall₂ (fun a b => f a = .ok b) xs ys := by
  induction xs generalizing ys with
  | nil =>
      rw [List.forall₂_nil_left_iff]
      exact ⟨fun h => (Except.ok.inj h).symm, fun h => congrArg Except.ok h.symm⟩
  | cons a xs ih =>
      rw [List.mapM_cons, bind_eq_ok, List.forall₂_cons_left_iff]
      constructor
      · rintro ⟨b, first, h⟩
        obtain ⟨ys', later, h⟩ := bind_eq_ok.1 h
        exact ⟨b, ys', first, ih.1 later, (Except.ok.inj h).symm⟩
      · rintro ⟨b, ys', first, later, rfl⟩
        exact ⟨b, first, bind_eq_ok.2 ⟨ys', ih.2 later, rfl⟩⟩

/-- Every step has its result among them. -/
theorem exists_mem_of_mapM {f : α → Except ε β} {xs : List α} {ys : List β}
    (h : xs.mapM f = .ok ys) {a : α} (ha : a ∈ xs) : ∃ b ∈ ys, f a = .ok b := by
  rw [mapM_eq_ok_iff] at h
  induction h with
  | nil => exact absurd ha List.not_mem_nil
  | @cons a' b' xs ys first _ ih =>
      rcases List.mem_cons.1 ha with rfl | later
      · exact ⟨b', List.mem_cons_self, first⟩
      · obtain ⟨b, listed, done⟩ := ih later
        exact ⟨b, List.mem_cons_of_mem b' listed, done⟩

/-- Steps fail with the error of the first that fails. -/
theorem mapM_eq_error_iff {f : α → Except ε β} {xs : List α} {e : ε} :
    xs.mapM f = .error e ↔ ∃ before a after, xs = before ++ a :: after ∧
      (∀ b ∈ before, ∃ c, f b = .ok c) ∧ f a = .error e := by
  induction xs with
  | nil => simp [pure, Except.pure]
  | cons a xs ih =>
      rw [List.mapM_cons, bind_eq_error]
      constructor
      · rintro (first | ⟨b, first, h⟩)
        · exact ⟨[], a, xs, rfl, by simp, first⟩
        · rcases bind_eq_error.1 h with later | ⟨_, _, h⟩
          · obtain ⟨before, a', after, rfl, fine, failed⟩ := ih.1 later
            exact ⟨a :: before, a', after, rfl, List.forall_mem_cons.2 ⟨⟨b, first⟩, fine⟩, failed⟩
          · exact absurd h (by simp [pure, Except.pure])
      · rintro ⟨before, a', after, same, fine, failed⟩
        cases before with
        | nil =>
            obtain ⟨rfl, -⟩ := List.cons.inj same
            exact .inl failed
        | cons b before =>
            obtain ⟨rfl, rfl⟩ := List.cons.inj same
            obtain ⟨⟨c, first⟩, fine⟩ := List.forall_mem_cons.1 fine
            have later := ih.2 ⟨before, a', after, rfl, fine, failed⟩
            exact .inr ⟨c, first, bind_eq_error.2 (.inl later)⟩

/-- Steps in a row end well if each of them does. -/
theorem exists_mapM_eq_ok_iff {f : α → Except ε β} {xs : List α} :
    (∃ ys, xs.mapM f = .ok ys) ↔ ∀ a ∈ xs, ∃ b, f a = .ok b := by
  constructor
  · rintro ⟨ys, h⟩ a ha
    obtain ⟨b, -, done⟩ := exists_mem_of_mapM h ha
    exact ⟨b, done⟩
  · intro fine
    cases h : xs.mapM f with
    | ok ys => exact ⟨ys, rfl⟩
    | error e =>
        obtain ⟨before, a, after, rfl, -, failed⟩ := mapM_eq_error_iff.1 h
        obtain ⟨b, done⟩ := fine a (List.mem_append_right before List.mem_cons_self)
        rw [done] at failed
        exact absurd failed (by simp)

/-- What every step preserves holds in the end. -/
theorem foldlM_invariant {P : α → Prop} {f : α → γ → Except ε α} {xs : List γ} {a b : α}
    (h : xs.foldlM f a = .ok b) (first : P a)
    (step : ∀ x ∈ xs, ∀ a b, P a → f a x = .ok b → P b) : P b := by
  induction xs generalizing a with
  | nil =>
      obtain rfl := Except.ok.inj h
      exact first
  | cons x xs ih =>
      rw [List.forall_mem_cons] at step
      rw [List.foldlM_cons] at h
      obtain ⟨next, done, h⟩ := bind_eq_ok.1 h
      exact ih h (step.1 a next first done) step.2

/-! ## Failing in a certain way -/

/-- The step fails, and with an error of the given sort. -/
def FailsWith (sort : ε → Prop) (x : Except ε α) : Prop := ∃ e, x = .error e ∧ sort e

section FailsWith

variable {sort : ε → Prop}

@[simp] theorem not_failsWith_ok (a : α) : ¬ FailsWith sort (.ok a) := by
  rintro ⟨e, failed, -⟩
  exact absurd failed (by simp)

@[simp] theorem not_failsWith_pure (a : α) : ¬ FailsWith sort (pure a : Except ε α) :=
  not_failsWith_ok a

@[simp] theorem failsWith_error_iff {e : ε} :
    FailsWith sort (.error e : Except ε α) ↔ sort e := by
  simp [FailsWith]

@[simp] theorem failsWith_throw_iff {e : ε} :
    FailsWith sort (throw e : Except ε α) ↔ sort e :=
  failsWith_error_iff

/-- A chain fails in a certain way if its first step does, or the rest does after it. -/
theorem failsWith_bind {x : Except ε α} {k : α → Except ε β} :
    FailsWith sort (x >>= k) ↔ FailsWith sort x ∨ ∃ a, x = .ok a ∧ FailsWith sort (k a) := by
  cases x <;> simp

theorem failsWith_mapError {g : γ → ε} {x : Except γ α} :
    FailsWith sort (x.mapError g) ↔ FailsWith (fun e => sort (g e)) x := by
  cases x <;> simp [Except.mapError]

/-- Steps in a row fail in a certain way if the first that fails does. -/
theorem failsWith_mapM {f : α → Except ε β} {xs : List α} :
    FailsWith sort (xs.mapM f) ↔ ∃ before a after, xs = before ++ a :: after ∧
      (∀ b ∈ before, ∃ c, f b = .ok c) ∧ FailsWith sort (f a) := by
  constructor
  · rintro ⟨e, failed, is⟩
    obtain ⟨before, a, after, same, fine, failed⟩ := mapM_eq_error_iff.1 failed
    exact ⟨before, a, after, same, fine, e, failed, is⟩
  · rintro ⟨before, a, after, same, fine, e, failed, is⟩
    exact ⟨e, mapM_eq_error_iff.2 ⟨before, a, after, same, fine, failed⟩, is⟩

/-- If steps fail in one way only, they do in a row if one of them does. -/
theorem failsWith_mapM_iff_exists {f : α → Except ε β} {xs : List α}
    (only : ∀ a e, f a = .error e → sort e) :
    FailsWith sort (xs.mapM f) ↔ ∃ a ∈ xs, FailsWith sort (f a) := by
  constructor
  · intro h
    obtain ⟨before, a, after, rfl, -, failed⟩ := failsWith_mapM.1 h
    exact ⟨a, List.mem_append_right before List.mem_cons_self, failed⟩
  · intro h
    induction xs with
    | nil => simp at h
    | cons a xs ih =>
        rw [List.exists_mem_cons_iff] at h
        rw [List.mapM_cons, failsWith_bind]
        cases first : f a with
        | error e => exact .inl (failsWith_error_iff.2 (only a e first))
        | ok b =>
            rw [first] at h
            exact .inr ⟨b, rfl, failsWith_bind.2 (.inl (ih (h.resolve_left (not_failsWith_ok b))))⟩

end FailsWith

/-! ## Two chains -/

/-- Two chains of steps fail with the same error, or end well with related results. -/
inductive InStep (R : α → β → Prop) : Except ε α → Except ε β → Prop where
  | error (e : ε) : InStep R (.error e) (.error e)
  | ok {a : α} {b : β} (related : R a b) : InStep R (.ok a) (.ok b)

theorem InStep.foldlM {R : α → β → Prop} {f : α → γ → Except ε α} {g : β → γ → Except ε β}
    {xs : List γ} {a : α} {b : β} (first : R a b)
    (step : ∀ x ∈ xs, ∀ a b, R a b → InStep R (f a x) (g b x)) :
    InStep R (xs.foldlM f a) (xs.foldlM g b) := by
  induction xs generalizing a b with
  | nil => exact .ok first
  | cons x xs ih =>
      rw [List.forall_mem_cons] at step
      rw [List.foldlM_cons, List.foldlM_cons]
      have head := step.1 a b first
      generalize f a x = left, g b x = right at head ⊢
      cases head with
      | error e => exact .error e
      | ok next => exact ih next step.2

end MinuteBook
