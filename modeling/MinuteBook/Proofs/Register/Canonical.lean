import Mathlib.Data.List.Lex
import Mathlib.Data.Prod.Lex
import MinuteBook.Proofs.Register.Written

/-!
# One text for each register

Registers that agree have the same text, however they came to agree (`text_eq_of_agrees`): the rows
are sorted by series, and the order of series is total and tells any two of them apart. It is the
lexicographic order of their keys (`Series.le_iff`).
-/

namespace MinuteBook

/-! ## The order of series -/

namespace Text

theorem codePoint_injective : Function.Injective codePoint :=
  Function.LeftInverse.injective ofCodePoint_codePoint

theorem before_iff (s t : List Char) :
    before s t = true ↔ s.map codePoint < t.map codePoint := by
  induction s generalizing t with
  | nil => cases t <;> simp [before]
  | cons a s ih =>
      cases t with
      | nil => simp [before]
      | cons b t =>
          rw [List.map_cons, List.map_cons, List.cons_lt_cons_iff, before, Bool.or_eq_true,
            Bool.and_eq_true, decide_eq_true_iff, beq_iff_eq, ih]

end Text

namespace Series

/-- The code points of the entity, then the year. -/
def key (s : Series) : List Nat ×ₗ Int := toLex (s.entity.toList.map Text.codePoint, s.year)

theorem key_injective : Function.Injective key := by
  intro a b same
  obtain ⟨names, years⟩ := Prod.mk.inj (toLex.injective same)
  have entities : a.entity = b.entity :=
    String.toList_inj.1 (Text.codePoint_injective.list_map names)
  cases a
  cases b
  exact congrArg₂ Series.mk entities years

theorem le_iff (a b : Series) : a.le b = true ↔ a.key ≤ b.key := by
  have names : a.entity = b.entity ↔
      a.entity.toList.map Text.codePoint = b.entity.toList.map Text.codePoint := by
    rw [Text.codePoint_injective.list_map.eq_iff, String.toList_inj]
  rw [le, key, key, Prod.Lex.toLex_le_toLex, Bool.or_eq_true, Bool.and_eq_true, Text.before_iff,
    beq_iff_eq, decide_eq_true_iff, names]

theorem le_trans {a b c : Series} (h : a.le b = true) (h' : b.le c = true) : a.le c = true := by
  rw [le_iff] at h h' ⊢
  exact h.trans h'

theorem le_total (a b : Series) : (a.le b || b.le a) = true := by
  rw [Bool.or_eq_true, le_iff, le_iff]
  exact Std.le_total

theorem le_antisymm {a b : Series} (h : a.le b = true) (h' : b.le a = true) : a = b := by
  rw [le_iff] at h h'
  exact key_injective (h.antisymm h')

end Series

namespace Register

variable {r q : Register}

/-! ## Agreement -/

theorem get?_eq_some_iff (distinct : r.series.Nodup) {s : Series} {n : Int} :
    r.get? s = some n ↔ (s, n) ∈ r.counters :=
  ⟨Keyed.mem_of_lookup, Keyed.lookup_of_mem distinct⟩

theorem perm_of_agrees (distinct : r.series.Nodup) (h : r.agrees q = true) :
    r.counters.Perm q.counters := by
  have inside : r.counters ⊆ q.counters := by
    rintro ⟨s, n⟩ held
    exact Keyed.mem_of_lookup (get?_of_agrees h (Keyed.lookup_of_mem distinct held))
  have once : r.counters.Nodup := List.Nodup.of_map Prod.fst distinct
  exact (once.subperm inside).perm_of_length_le (Nat.le_of_eq (size_of_agrees h).symm)

/-- Registers agree exactly if they hold the same counter for each series. -/
theorem agrees_iff (distinct : r.series.Nodup) (distinct' : q.series.Nodup) :
    r.agrees q = true ↔ ∀ s, r.get? s = q.get? s := by
  constructor
  · intro h s
    apply Option.ext
    intro n
    rw [get?_eq_some_iff distinct, get?_eq_some_iff distinct', (perm_of_agrees distinct h).mem_iff]
  · intro same
    have members (c : Series × Int) : c ∈ r.counters ↔ c ∈ q.counters := by
      obtain ⟨s, n⟩ := c
      rw [← get?_eq_some_iff distinct, ← get?_eq_some_iff distinct', same s]
    have perm := (List.perm_ext_iff_of_nodup (List.Nodup.of_map Prod.fst distinct)
      (List.Nodup.of_map Prod.fst distinct')).2 members
    simp only [agrees, size, perm.length_eq, beq_self_eq_true, Bool.true_and, List.all_eq_true,
      beq_iff_eq]
    exact fun c held => (get?_eq_some_iff distinct').2 ((members c).1 held)

/-! ## The text -/

theorem pairwise_rows (r : Register) : r.rows.Pairwise fun a b => a.1.le b.1 = true := by
  rw [rows]
  apply List.pairwise_mergeSort
  · intro a b c first second
    exact Series.le_trans first second
  · intro a b
    exact Series.le_total a.1 b.1

theorem rows_eq_of_agrees (distinct : r.series.Nodup) (h : r.agrees q = true) :
    r.rows = q.rows := by
  have perm : r.rows.Perm q.rows :=
    (rows_perm r).trans ((perm_of_agrees distinct h).trans (rows_perm q).symm)
  refine perm.eq_of_pairwise ?_ (pairwise_rows r) (pairwise_rows q)
  rintro ⟨s, m⟩ ⟨t, n⟩ first second le le'
  -- Both are counters of the first register, and of a series it has only one.
  obtain rfl := Series.le_antisymm le le'
  have held := (rows_perm r).mem_iff.1 first
  have held' := (perm_of_agrees distinct h).mem_iff.2 ((rows_perm q).mem_iff.1 second)
  have same := (Keyed.lookup_of_mem distinct held).symm.trans (Keyed.lookup_of_mem distinct held')
  rw [Option.some.inj same]

/-- Registers that agree have the same text, or both have none. -/
theorem text_eq_of_agrees (distinct : r.series.Nodup) (h : r.agrees q = true) :
    r.text = q.text := by
  rw [text, text, rows_eq_of_agrees distinct h]

/-! ## Changes -/

/-- What is done to a register in memory. -/
inductive Change where
  | bump (s : Series)
  | restore (s : Series) (n : Int)
  /-- The register is read anew; a value that is no register changes nothing. -/
  | read (v : Value)

def change (r : Register) : Change → Register
  | .bump s => r.bump s
  | .restore s n => r.restore s n
  | .read v => match ofValue v with
    | .ok q => q
    | .error _ => r

theorem distinct_change (h : r.series.Nodup) (c : Change) : (r.change c).series.Nodup := by
  cases c with
  | bump s => exact Keyed.nodup_put h s _
  | restore s n =>
      rw [change, restore]
      split
      · exact h.sublist (List.filter_sublist.map Prod.fst)
      · exact Keyed.nodup_put h s n
  | read v =>
      rw [change]
      split
      · rename_i q read
        exact (sound_of_ofValue read).distinct
      · exact h

/-- Whatever is done to a register, it has one counter for each series. -/
theorem distinct_changes (h : r.series.Nodup) (changes : List Change) :
    (changes.foldl change r).series.Nodup := by
  induction changes generalizing r with
  | nil => exact h
  | cons c changes ih => exact ih (distinct_change h c)

end Register

end MinuteBook
