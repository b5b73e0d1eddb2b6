import MinuteBook.Proofs.Printing
import MinuteBook.Proofs.Register.Written

/-!
# Entries of a register file

Each entry of the list of counters either spells a counter, or is refused, or holds an infinite
number where a whole one is read. The first two are what reading a register is prepared for;
`counterOf_infinite_iff` singles out the third. The list is read to the first entry that spells no
counter (`mapM_counterOf_infinite_iff`).
-/

namespace MinuteBook

namespace Value

variable {v w : Value} {f : Fault} {key : String}

theorem require_ne_infinite (v : Value) (key : String) : v.require key ≠ .error .infinite := by
  unfold require
  split
  · split <;> simp
  · simp

theorem display_ne_infinite (v : Value) : v.display ≠ .error .infinite := by
  intro h
  exact absurd (longOnly_display v _ h) (by simp)

theorem shown_ne_infinite (v : Value) : v.shown ≠ .error .infinite := by
  intro h
  exact absurd (longOnly_shown v _ h) (by simp)

theorem toInt_infinite_iff (v : Value) :
    v.toInt = .error .infinite ↔ ∃ neg, v = .double (.infinite neg) := by
  constructor
  · intro h
    unfold toInt at h
    split at h
    · exact absurd h (by simp)
    · exact absurd h (by simp)
    · exact absurd h (by simp)
    · rename_i neg
      exact ⟨neg, rfl⟩
    · exact absurd h (by simp)
    · exact absurd (eq_of_spelledInt_error h) (by simp)
    · exact absurd (eq_of_spelledInt_error h) (by simp)
    · exact absurd h (by simp)
  · rintro ⟨neg, rfl⟩
    rfl

end Value

namespace Register

variable {v : Value} {c : Series × Int}

/-- The counter that an entry spells: under its keys stand a text, or what has one, and two whole
numbers, or what is read as one, and the last is not negative. -/
structure Spells (v : Value) (c : Series × Int) : Prop where
  entity : ∃ w, v.require "entityId" = .ok w ∧ w.display = .ok c.1.entity
  year : ∃ w, v.require "year" = .ok w ∧ w.toInt = .ok c.1.year
  value : ∃ w, v.require "value" = .ok w ∧ w.toInt = .ok c.2
  nonneg : 0 ≤ c.2

/-- An entry with a name that holds an infinite number: as its year, or as its value if the year is
a whole number. -/
structure Infinite (v : Value) : Prop where
  entity : ∃ w name, v.require "entityId" = .ok w ∧ w.display = .ok name
  number : (∃ neg, v.require "year" = .ok (.double (.infinite neg))) ∨
    (∃ w year, v.require "year" = .ok w ∧ w.toInt = .ok year) ∧
      ∃ neg, v.require "value" = .ok (.double (.infinite neg))

theorem entryOf_eq_ok_iff : entryOf v = .ok c ↔
    (∃ w, v.require "entityId" = .ok w ∧ w.display = .ok c.1.entity) ∧
    (∃ w, v.require "year" = .ok w ∧ w.toInt = .ok c.1.year) ∧
    ∃ w, v.require "value" = .ok w ∧ w.toInt = .ok c.2 := by
  constructor
  · intro h
    obtain ⟨entity, hentity, h⟩ := bind_eq_ok.1 h
    obtain ⟨name, hname, h⟩ := bind_eq_ok.1 h
    obtain ⟨y, hy, h⟩ := bind_eq_ok.1 h
    obtain ⟨year, hyear, h⟩ := bind_eq_ok.1 h
    obtain ⟨x, hx, h⟩ := bind_eq_ok.1 h
    obtain ⟨last, hlast, h⟩ := bind_eq_ok.1 h
    obtain rfl := Except.ok.inj h
    exact ⟨⟨entity, hentity, hname⟩, ⟨y, hy, hyear⟩, x, hx, hlast⟩
  · rintro ⟨⟨entity, hentity, hname⟩, ⟨y, hy, hyear⟩, x, hx, hlast⟩
    rw [entryOf, hentity, ok_bind, hname, ok_bind, hy, ok_bind, hyear, ok_bind, hx, ok_bind, hlast,
      ok_bind]
    rfl

theorem entryOf_infinite_iff : entryOf v = .error .infinite ↔ Infinite v := by
  constructor
  · intro h
    obtain ⟨entity, hentity, h⟩ :=
      (bind_eq_error.1 h).resolve_left (Value.require_ne_infinite v _)
    obtain ⟨name, hname, h⟩ := (bind_eq_error.1 h).resolve_left (Value.display_ne_infinite _)
    obtain ⟨y, hy, h⟩ := (bind_eq_error.1 h).resolve_left (Value.require_ne_infinite v _)
    refine ⟨⟨entity, name, hentity, hname⟩, ?_⟩
    rcases bind_eq_error.1 h with early | ⟨year, hyear, h⟩
    · obtain ⟨neg, rfl⟩ := (Value.toInt_infinite_iff y).1 early
      exact .inl ⟨neg, hy⟩
    · obtain ⟨x, hx, h⟩ := (bind_eq_error.1 h).resolve_left (Value.require_ne_infinite v _)
      rcases bind_eq_error.1 h with late | ⟨_, _, h⟩
      · obtain ⟨neg, rfl⟩ := (Value.toInt_infinite_iff x).1 late
        exact .inr ⟨⟨y, year, hy, hyear⟩, neg, hx⟩
      · exact absurd h (by simp [pure, Except.pure])
  · rintro ⟨⟨entity, name, hentity, hname⟩, number⟩
    rw [entryOf, hentity, ok_bind, hname, ok_bind]
    rcases number with ⟨neg, hy⟩ | ⟨⟨y, year, hy, hyear⟩, neg, hx⟩
    · rw [hy]
      rfl
    · rw [hy, ok_bind, hyear, ok_bind, hx]
      rfl

/-! ## Counters -/

/-- An entry is refused with its own form or that of its series in the message. -/
theorem refuse_ne_ok (shown : Except Fault String) (e : String → Error) :
    (do throw (e (← shown.mapError Error.fault)) : Except Error (Series × Int)) ≠ .ok c := by
  intro h
  obtain ⟨_, _, h⟩ := bind_eq_ok.1 h
  exact absurd h (by simp [throw, throwThe, MonadExceptOf.throw])

theorem refuse_ne_infinite {shown : Except Fault String} {e : String → Error}
    (finite : shown ≠ .error .infinite) (other : ∀ text, e text ≠ .fault .infinite) :
    (do throw (e (← shown.mapError Error.fault)) : Except Error (Series × Int)) ≠
      .error (.fault .infinite) := by
  intro h
  rcases bind_eq_error.1 h with unshown | ⟨text, _, h⟩
  · cases shown with
    | ok text => exact absurd unshown (by simp [Except.mapError])
    | error f =>
        obtain rfl : f = .infinite := Error.fault.inj (Except.error.inj unshown)
        exact finite rfl
  · exact other text (Except.error.inj h)

theorem counterOf_eq_ok_iff : counterOf v = .ok c ↔ Spells v c := by
  constructor
  · intro h
    unfold counterOf at h
    split at h
    · exact absurd h (by simp)
    · exact absurd h (refuse_ne_ok _ _)
    · rename_i s n entry
      split at h
      · exact absurd h (refuse_ne_ok _ _)
      · rename_i nonneg
        obtain rfl := Except.ok.inj h
        obtain ⟨entity, year, value⟩ := entryOf_eq_ok_iff.1 entry
        exact ⟨entity, year, value, Int.not_lt.1 nonneg⟩
  · intro spells
    obtain ⟨s, n⟩ := c
    rw [counterOf, entryOf_eq_ok_iff.2 ⟨spells.entity, spells.year, spells.value⟩]
    exact if_neg (Int.not_lt.2 spells.nonneg)

theorem counterOf_infinite_iff : counterOf v = .error (.fault .infinite) ↔ Infinite v := by
  constructor
  · intro h
    unfold counterOf at h
    split at h
    · rename_i infinite
      exact entryOf_infinite_iff.1 infinite
    · exact absurd h (refuse_ne_infinite (Value.shown_ne_infinite v) (by simp))
    · rename_i s n _
      have finite : s.shown ≠ .error .infinite := by
        intro unshown
        exact absurd ((Value.longOnly_wholeText s.year).map _ _ unshown) (by simp)
      split at h
      · exact absurd h (refuse_ne_infinite finite (by simp))
      · exact absurd h (by simp)
  · intro infinite
    rw [counterOf, entryOf_infinite_iff.2 infinite]

/-- The entries that are read are counters, all of them. -/
theorem mapM_counterOf_eq_ok_iff {entries : List Value} {cs : List (Series × Int)} :
    entries.mapM counterOf = .ok cs ↔ List.Forall₂ Spells entries cs := by
  rw [mapM_eq_ok_iff]
  have each : (fun v c => counterOf v = .ok c) = Spells := by
    funext v c
    exact propext counterOf_eq_ok_iff
  rw [each]

/-- Reading meets an infinite number if all entries before it are counters. -/
theorem mapM_counterOf_infinite_iff {entries : List Value} :
    entries.mapM counterOf = .error (.fault .infinite) ↔ ∃ before v after,
      entries = before ++ v :: after ∧ (∀ w ∈ before, ∃ c, Spells w c) ∧ Infinite v := by
  rw [mapM_eq_error_iff]
  simp only [counterOf_eq_ok_iff, counterOf_infinite_iff]

/-- The entries that a value lists. -/
def listed? (v : Value) : Option (List Value) :=
  match v.record?.bind fun es => Record.get? es "counters" with
  | some (.list entries) => some entries
  | _ => none

theorem ofValue_eq (v : Value) : ofValue v = match listed? v with
    | some entries => do return (← entries.mapM counterOf).foldl raise empty
    | none => .error .noCounters := by
  unfold ofValue listed?
  cases v.record?.bind fun es => Record.get? es "counters" with
  | none => rfl
  | some w => cases w <;> rfl

end Register

end MinuteBook
