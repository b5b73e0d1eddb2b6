import Mathlib.Data.List.Nodup
import MinuteBook.Register

/-!
# Counters of a register

What giving out a number and taking it back do to every counter. A register that has been read is
sound: it has one counter for each series and none is negative, and no operation of numbering
changes that. Taking a number back restores the register itself, with one exception: a counter that
stood at zero is gone afterwards.
-/

namespace MinuteBook

namespace Keyed

variable {κ : Type} {β : Type} [DecidableEq κ]

theorem mem_of_lookup {r : List (κ × β)} {key : κ} {v : β} (h : r.lookup key = some v) :
    (key, v) ∈ r := by
  obtain ⟨before, after, rfl, -⟩ := List.lookup_eq_some_iff.1 h
  exact List.mem_append_right before List.mem_cons_self

theorem lookup_of_mem {r : List (κ × β)} (distinct : (r.map Prod.fst).Nodup) {key : κ} {v : β}
    (h : (key, v) ∈ r) : r.lookup key = some v := by
  induction r with
  | nil => exact absurd h List.not_mem_nil
  | cons e r ih =>
      obtain ⟨k, w⟩ := e
      rw [List.map_cons, List.nodup_cons] at distinct
      rcases List.mem_cons.1 h with same | later
      · obtain ⟨rfl, rfl⟩ := Prod.mk.inj same
        exact List.lookup_cons_self
      · have other : key ≠ k := by
          rintro rfl
          exact distinct.1 (List.mem_map.2 ⟨_, later, rfl⟩)
        rw [List.lookup_cons, beq_eq_false_iff_ne.2 other]
        exact ih distinct.2 later

theorem lookup_eq_none_iff {r : List (κ × β)} {key : κ} :
    r.lookup key = none ↔ key ∉ r.map Prod.fst := by
  rw [List.lookup_eq_none_iff, List.mem_map, not_exists]
  apply forall_congr'
  intro e
  rw [not_and, bne_iff_ne, ne_comm]

theorem mem_keys_put (r : List (κ × β)) (key : κ) (v : β) (k : κ) :
    k ∈ (put r key v).map Prod.fst ↔ k = key ∨ k ∈ r.map Prod.fst := by
  induction r with
  | nil => simp [put]
  | cons e r ih =>
      obtain ⟨k', w⟩ := e
      by_cases h : k' = key
      · subst h; simp [put]
      · simp only [put, h, if_false, List.map_cons, List.mem_cons, ih]
        exact or_left_comm

theorem nodup_put {r : List (κ × β)} (distinct : (r.map Prod.fst).Nodup) (key : κ) (v : β) :
    ((put r key v).map Prod.fst).Nodup := by
  induction r with
  | nil => simp [put]
  | cons e r ih =>
      obtain ⟨k, w⟩ := e
      rw [List.map_cons, List.nodup_cons] at distinct
      by_cases h : k = key
      · subst h
        simpa [put] using distinct
      · rw [put, if_neg h, List.map_cons, List.nodup_cons]
        refine ⟨?_, ih distinct.2⟩
        rw [mem_keys_put]
        rintro (rfl | later)
        · exact h rfl
        · exact distinct.1 later

theorem length_put_of_mem {r : List (κ × β)} {key : κ} (h : key ∈ r.map Prod.fst) (v : β) :
    (put r key v).length = r.length := by
  induction r with
  | nil => exact absurd h List.not_mem_nil
  | cons e r ih =>
      obtain ⟨k, w⟩ := e
      by_cases hk : k = key
      · rw [put, if_pos hk, List.length_cons, List.length_cons]
      · rw [List.map_cons, List.mem_cons] at h
        rw [put, if_neg hk, List.length_cons, List.length_cons, ih (h.resolve_left (Ne.symm hk))]

theorem mem_put {r : List (κ × β)} {key : κ} {v : β} {e : κ × β} (h : e ∈ put r key v) :
    e = (key, v) ∨ e ∈ r := by
  induction r with
  | nil => simpa [put] using h
  | cons e' r ih =>
      obtain ⟨k, w⟩ := e'
      by_cases hk : k = key
      · rw [put, if_pos hk, List.mem_cons] at h
        exact h.imp_right (List.mem_cons_of_mem _)
      · rw [put, if_neg hk, List.mem_cons] at h
        rcases h with rfl | later
        · exact .inr List.mem_cons_self
        · exact (ih later).imp_right (List.mem_cons_of_mem _)

/-- The old value put back into its place. -/
theorem put_put_self {r : List (κ × β)} {key : κ} {v : β} (h : r.lookup key = some v) (w : β) :
    put (put r key w) key v = r := by
  induction r with
  | nil => simp at h
  | cons e r ih =>
      obtain ⟨k, u⟩ := e
      by_cases hk : k = key
      · subst hk
        rw [List.lookup_cons_self, Option.some.injEq] at h
        simp [put, h]
      · rw [List.lookup_cons, beq_eq_false_iff_ne.2 (Ne.symm hk)] at h
        simp [put, hk, ih h]

/-- A value put at the end and taken away again. -/
theorem filter_put {r : List (κ × β)} {key : κ} (h : r.lookup key = none) (w : β) :
    (put r key w).filter (fun e => e.1 != key) = r := by
  induction r with
  | nil => simp [put]
  | cons e r ih =>
      obtain ⟨k, u⟩ := e
      rw [lookup_eq_none_iff, List.map_cons, List.mem_cons, not_or] at h
      rw [put, if_neg (Ne.symm h.1), List.filter_cons_of_pos (by simpa using Ne.symm h.1),
        ih (lookup_eq_none_iff.2 h.2)]

theorem lookup_filter_ne (r : List (κ × β)) (key k : κ) :
    (r.filter fun e => e.1 != key).lookup k = if k = key then none else r.lookup k := by
  induction r with
  | nil => simp
  | cons e r ih =>
      obtain ⟨k', u⟩ := e
      by_cases hk : k' = key
      · subst hk
        rw [List.filter_cons_of_neg (by simp), ih, List.lookup_cons]
        split
        · rfl
        · rename_i other
          rw [beq_eq_false_iff_ne.2 other]
      · rw [List.filter_cons_of_pos (by simpa using hk), List.lookup_cons, List.lookup_cons, ih]
        by_cases same : k = k'
        · subst same; simp [hk]
        · rw [beq_eq_false_iff_ne.2 same]

end Keyed

namespace Register

variable {r q : Register} {s t : Series} {n : Int}

/-! ## Counters after one operation -/

theorem last_put (r : Register) (s t : Series) (n : Int) :
    (r.put s n).last t = if t = s then n else r.last t := by
  simp only [last, get?_put]
  split <;> rfl

theorem get?_erase (r : Register) (s t : Series) :
    (r.erase s).get? t = if t = s then none else r.get? t :=
  Keyed.lookup_filter_ne r.counters s t

theorem last_bump (r : Register) (s t : Series) :
    (r.bump s).last t = if t = s then r.last s + 1 else r.last t := last_put r s t _

@[simp] theorem last_bump_self (r : Register) (s : Series) : (r.bump s).last s = r.last s + 1 := by
  rw [last_bump, if_pos rfl]

/-- As far as the last numbers go, taking a number back undoes giving it out. -/
theorem last_restore_bump (r : Register) (s t : Series) :
    ((r.bump s).restore s (r.last s)).last t = r.last t := by
  unfold restore
  split
  · rename_i zero
    simp only [last, get?_erase, bump, get?_put] at zero ⊢
    split
    · rename_i same; rw [same, zero]; rfl
    · rfl
  · rw [last_put, last_bump]
    split
    · rename_i same; rw [same]
    · rfl

/-- Unless a counter stands at zero, taking a number back gives the register as it was. -/
theorem restore_bump (h : r.get? s ≠ some 0) : (r.bump s).restore s (r.last s) = r := by
  cases found : r.get? s with
  | none =>
      have zero : r.last s = 0 := by simp [last, found]
      rw [restore, if_pos zero, erase, bump, put]
      exact congrArg Register.mk (Keyed.filter_put found _)
  | some n =>
      have value : r.last s = n := by simp [last, found]
      have positive : n ≠ 0 := by
        rintro rfl
        exact h found
      rw [restore, value, if_neg positive, bump, put, put]
      exact congrArg Register.mk (Keyed.put_put_self found _)

/-! ## Sound registers -/

/-- One counter for each series, and none negative. -/
structure Sound (r : Register) : Prop where
  distinct : r.series.Nodup
  nonneg : ∀ c ∈ r.counters, 0 ≤ c.2

theorem sound_empty : empty.Sound := ⟨List.nodup_nil, by simp [empty]⟩

theorem Sound.get?_of_mem (h : r.Sound) (m : (s, n) ∈ r.counters) : r.get? s = some n :=
  Keyed.lookup_of_mem h.distinct m

theorem Sound.last_nonneg (h : r.Sound) (s : Series) : 0 ≤ r.last s := by
  unfold last
  cases found : r.get? s with
  | none => exact Int.le_refl 0
  | some n => exact h.nonneg _ (Keyed.mem_of_lookup found)

theorem Sound.put (h : r.Sound) (s : Series) (hn : 0 ≤ n) : (r.put s n).Sound := by
  refine ⟨Keyed.nodup_put h.distinct s n, fun c hc => ?_⟩
  rcases Keyed.mem_put hc with rfl | old
  · exact hn
  · exact h.nonneg c old

theorem Sound.bump (h : r.Sound) (s : Series) : (r.bump s).Sound :=
  h.put s (by have := h.last_nonneg s; omega)

theorem Sound.erase (h : r.Sound) (s : Series) : (r.erase s).Sound :=
  ⟨h.distinct.sublist (List.filter_sublist.map Prod.fst),
    fun c hc => h.nonneg c (List.mem_of_mem_filter hc)⟩

theorem Sound.restore (h : r.Sound) (s : Series) (hn : 0 ≤ n) : (r.restore s n).Sound := by
  unfold Register.restore
  split
  · exact h.erase s
  · exact h.put s hn

theorem Sound.raise (h : r.Sound) {c : Series × Int} (hc : 0 ≤ c.2) : (r.raise c).Sound :=
  h.put c.1 (Int.le_trans hc (Int.le_max_left _ _))

theorem Sound.foldl_raise {cs : List (Series × Int)} (h : r.Sound) (hcs : ∀ c ∈ cs, 0 ≤ c.2) :
    (cs.foldl Register.raise r).Sound := by
  induction cs generalizing r with
  | nil => exact h
  | cons c cs ih =>
      rw [List.forall_mem_cons] at hcs
      exact ih (h.raise hcs.1) hcs.2

/-! ## Agreement -/

theorem Sound.agrees_self (h : r.Sound) : r.agrees r = true := by
  simp only [agrees, beq_self_eq_true, Bool.true_and, List.all_eq_true, beq_iff_eq]
  exact fun c hc => h.get?_of_mem hc

/-- Registers that agree hold the same counter for each series that the first has. -/
theorem get?_of_agrees (h : r.agrees q = true) (found : r.get? s = some n) : q.get? s = some n := by
  simp only [agrees, Bool.and_eq_true, List.all_eq_true, beq_iff_eq] at h
  exact h.2 _ (Keyed.mem_of_lookup found)

theorem size_of_agrees (h : r.agrees q = true) : r.size = q.size := by
  simp only [agrees, Bool.and_eq_true, beq_iff_eq] at h
  exact h.1

/-- A register does not agree with itself after another number has been given out. -/
theorem not_agrees_bump (r : Register) (s : Series) : (r.bump s).agrees r = false := by
  rw [Bool.eq_false_iff]
  intro h
  have given : (r.bump s).get? s = some (r.last s + 1) := by
    rw [Register.bump, get?_put, if_pos rfl]
  have before := get?_of_agrees h given
  have : r.last s = r.last s + 1 := congrArg (Option.getD · 0) before
  omega

/-- Nor does it after a counter has been lost that stood at zero. -/
theorem not_agrees_restore_bump (h : r.get? s = some 0) :
    ((r.bump s).restore s (r.last s)).agrees r = false := by
  have zero : r.last s = 0 := by simp [last, h]
  have held : s ∈ r.counters.map Prod.fst := List.mem_map.2 ⟨_, Keyed.mem_of_lookup h, rfl⟩
  rw [Bool.eq_false_iff]
  intro same
  have sizes := size_of_agrees same
  rw [restore, if_pos zero] at sizes
  have fewer : ((r.bump s).erase s).size < (r.bump s).size := by
    apply List.length_filter_lt_length_iff_exists.2
    have given := (Keyed.mem_keys_put r.counters s (r.last s + 1) s).2 (.inl rfl)
    obtain ⟨c, hc, hs⟩ := List.mem_map.1 given
    exact ⟨c, hc, by simp [hs]⟩
  have kept : (r.bump s).size = r.size := Keyed.length_put_of_mem held _
  omega

end Register

end MinuteBook
