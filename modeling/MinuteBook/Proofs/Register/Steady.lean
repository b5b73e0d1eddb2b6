import MinuteBook.Proofs.Register.Written

/-!
# A counter on its own

What a register must be like for one of its counters to depend on that series alone, through any
number of operations: there is room for the numbers still to come, so that it can always be written,
and no other series is ever read as that one (`Steady`). Giving out a number, taking it back, and
writing and reading the register keep it so, and the last two do not move the counter.
-/

namespace MinuteBook.Register

/-- A series that is never read as another one, however often the register is written and read:
unless it is that series itself, under a whole name. -/
def Separate (k s : Series) : Prop := ∀ n, rejoin^[n] s = k → Text.Whole s.entity

/-- A register that can be written, and still can after as many more numbers as said, and from which
no series is read as the given one but that series itself. -/
structure Steady (k : Series) (room : Nat) (r : Register) : Prop where
  sound : r.Sound
  years : ∀ s ∈ r.series, s.year.natAbs < Text.wholeLimit
  room : ∀ s, r.last s + room < Text.wholeLimit
  separate : ∀ s, r.last s ≠ 0 → Separate k s

variable {r : Register} {k s : Series} {room : Nat}

theorem Separate.rejoin (h : Separate k s) : Separate k (rejoin s) := by
  intro n same
  have whole := h (n + 1) same
  rwa [rejoin_eq_self whole]

namespace Steady

theorem mono {room' : Nat} (h : Steady k room r) (less : room' ≤ room) : Steady k room' r :=
  { h with room := fun s => by have := h.room s; omega }

theorem exists_text (h : Steady k room r) : ∃ text, r.text = .ok text := by
  apply Register.exists_text
  intro c held
  have value : r.last c.1 = c.2 := by rw [last, h.sound.get?_of_mem held, Option.getD_some]
  have nonneg := h.sound.nonneg c held
  have room := h.room c.1
  exact ⟨h.years c.1 (List.mem_map_of_mem held), by omega⟩

theorem bump (h : Steady k (room + 1) r) (year : s.year.natAbs < Text.wholeLimit)
    (separate : Separate k s) : Steady k room (r.bump s) where
  sound := h.sound.bump s
  years t listed := by
    rcases (Keyed.mem_keys_put r.counters s _ t).1 listed with rfl | listed
    · exact year
    · exact h.years t listed
  room t := by
    have := h.room t
    rw [last_bump]
    split
    · rename_i same
      rw [same] at this
      omega
    · omega
  separate t used := by
    rw [last_bump] at used
    by_cases same : t = s
    · rw [same]
      exact separate
    · rw [if_neg same] at used
      exact h.separate t used

/-- After a number has been taken back, there is as much room as before. -/
theorem restore (h : Steady k room r) (year : s.year.natAbs < Text.wholeLimit) :
    Steady k room ((r.bump s).restore s (r.last s)) where
  sound := (h.sound.bump s).restore s (h.sound.last_nonneg s)
  years t listed := by
    have bumped : t ∈ (r.bump s).series := by
      rw [Register.restore] at listed
      split at listed
      · exact (List.filter_sublist.map Prod.fst).subset listed
      · rcases (Keyed.mem_keys_put _ s _ t).1 listed with rfl | listed
        · exact (Keyed.mem_keys_put r.counters t _ t).2 (.inl rfl)
        · exact listed
    rcases (Keyed.mem_keys_put r.counters s _ t).1 bumped with rfl | listed
    · exact year
    · exact h.years t listed
  room t := by
    rw [last_restore_bump]
    exact h.room t
  separate t used := by
    rw [last_restore_bump] at used
    exact h.separate t used

theorem last_reread (h : Steady k room r) : r.reread.last k = r.last k := by
  apply last_reread_of h.sound
  rintro u used (rfl | same)
  · exact h.separate u used 0 rfl
  · exact h.separate u used 1 same

theorem reread (h : Steady k room r) : Steady k room r.reread where
  sound := sound_reread h.sound
  years t listed := by
    obtain ⟨⟨t, n⟩, held, rfl⟩ := List.mem_map.1 listed
    have found := (sound_reread h.sound).get?_of_mem held
    have nonneg : ∀ c ∈ r.rows.map rereadRow, 0 ≤ c.2 := by
      rw [List.forall_mem_map]
      exact fun c hc => h.sound.nonneg c ((rows_perm r).mem_iff.1 hc)
    have row := (mem_of_get?_foldl_raise nonneg found).resolve_right (by simp)
    obtain ⟨c, hc, same⟩ := List.mem_map.1 row
    obtain ⟨rfl, -⟩ := Prod.mk.inj same
    exact h.years c.1 (List.mem_map_of_mem ((rows_perm r).mem_iff.1 hc))
  room t := by
    have bound : r.reread.last t ≤ (Text.wholeLimit : Int) - room - 1 := by
      refine last_foldl_raise_le ?_ ?_
      · rintro _ back rfl
        obtain ⟨c, hc, rfl⟩ := List.mem_map.1 back
        have := h.room c.1
        rw [last_eq_of_mem_rows h.sound hc] at this
        simp only [rereadRow]
        omega
      · have := h.room t
        have := h.sound.last_nonneg t
        simp only [last, get?_empty, Option.getD_none]
        omega
    omega
  separate t used := by
    obtain ⟨u, -, rfl, used'⟩ := exists_of_last_reread h.sound used
    exact (h.separate u used').rejoin

end Steady

end MinuteBook.Register
