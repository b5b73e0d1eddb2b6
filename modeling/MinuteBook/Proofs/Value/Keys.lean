import Mathlib.Data.List.Basic
import MinuteBook.Proofs.Value.Equality
import MinuteBook.Value.Reading

/-!
# Values as keys

A mapping finds an entry under every key that agrees with the one it was written under. Keys agree
exactly if they are the same once all numbers and moments in them have one form
(`Value.agrees_iff`), so among keys agreement is an equivalence. What writing an entry does to every
look-up follows from that (`Record.find?_put`), and that the order in which entries are written
makes no difference but to the order of the new ones (`Record.IsProper.putAll_perm`).
-/

namespace MinuteBook

/-! ## Numbers -/

/-- A finite number in units. -/
def Number.units? : Number → Option Int
  | .int n => some (n * Double.one)
  | .double (.finite neg units) => some (Double.signed neg units)
  | .double _ => none

/-- Numbers are equal to a finite one if they have as many units. -/
theorem Number.equals_iff {a b : Number} {m : Int} (finite : a.units? = some m) :
    a.equals b = true ↔ b.units? = some m := by
  have cancel (i j : Int) : i * Double.one = j * Double.one ↔ i = j :=
    Int.mul_eq_mul_right_iff (Int.natCast_ne_zero.2 (Nat.ne_of_gt Double.one_pos))
  rcases a with i | ⟨neg, units⟩ | neg | mark <;>
    rcases b with j | ⟨neg', units'⟩ | neg' | mark' <;>
    simp only [units?, Option.some.injEq, reduceCtorEq] at finite <;> subst finite <;>
    simp only [equals, units?, Double.equals, Double.equalsInt, beq_iff_eq, Option.some.injEq,
      cancel, reduceCtorEq, Bool.false_eq_true]
  · exact eq_comm
  · exact eq_comm
  · exact eq_comm

namespace Value

/-- The units of a value that is a finite number. -/
def units? (v : Value) : Option Int := v.number?.bind Number.units?

/-- A finite number agrees with the values that have as many units. -/
theorem agrees_of_units {v w : Value} {m : Int} (finite : v.units? = some m) :
    v.agrees w = true ↔ w.units? = some m := by
  obtain ⟨a, number, units⟩ := Option.bind_eq_some_iff.1 finite
  have equal : v.numbersEqual w = true ↔ w.units? = some m := by
    rw [numbersEqual, number, units?]
    cases w.number? with
    | none => simp
    | some b => simp [Number.equals_iff units]
  rw [← equal]
  cases v with
  | bool b => rw [agrees]
  | int n => rw [agrees]
  | double x =>
      obtain rfl := Option.some.inj number
      cases x with
      | finite neg units =>
          cases w <;> simp [agrees, numbersEqual, number?, Number.equals, Double.agrees]
      | _ => cases units
  | _ => cases number

/-! ## The canonical form of a key -/

mutual

/-- The value with everything in it in one form: a finite number as the number of its units, and
a time of a zone as the same moment on one clock. -/
def canonical : Value → Value
  | .bool b => .int (b.toNat * Double.one)
  | .int n => .int (n * Double.one)
  | .double (.finite neg units) => .int (Double.signed neg units)
  | .zoned t z => .zoned ⟨default, 0, 0, 0, t.moment z⟩ default
  | .tuple vs => .tuple (canonicalAll vs)
  | v => v

def canonicalAll : List Value → List Value
  | [] => []
  | v :: vs => canonical v :: canonicalAll vs

end

theorem canonical_eq_int_iff {v : Value} {m : Int} : v.canonical = .int m ↔ v.units? = some m := by
  match v with
  | .double (.finite ..) | .double (.infinite _) | .double (.nan _) | .null | .bool _ | .int _
  | .text _ | .bytes _ | .date _ | .dateTime _ | .zoned .. | .list _ | .tuple _ | .set _
  | .mapping _ => simp [canonical, units?, number?, Number.units?]

/-- A key that is neither a finite number nor made of other values agrees with what has its
canonical form. -/
theorem agrees_iff_of_simple {v : Value} (other : v.units? = none) (sequence : v.items? = none)
    (key : v.isHashable = true) (w : Value) :
    v.agrees w = true ↔ v.canonical = w.canonical := by
  match v with
  | .text s =>
      rcases w with _ | _ | _ | ⟨_ | _ | _⟩ | t | _ | _ | _ | _ | _ | _ | _ | _ <;>
        simp [agrees, canonical, text?]
      exact eq_comm
  | .null | .bytes _ | .date _ | .dateTime _ | .zoned .. | .double (.infinite _)
  | .double (.nan _) =>
      rcases w with _ | _ | _ | ⟨_ | _ | _⟩ | _ | _ | _ | _ | _ | _ | _ | _ | _ <;>
        simp [agrees, canonical, numbersEqual, number?, Number.equals, Double.agrees, Double.equals,
          Double.equalsInt]

mutual

/-- Keys agree if they are the same in their canonical form. It is enough that one of the values
can be a key. -/
theorem agrees_iff (v w : Value) (key : v.isHashable = true ∨ w.isHashable = true) :
    v.agrees w = true ↔ v.canonical = w.canonical := by
  cases finite : v.units? with
  | some m =>
      rw [agrees_of_units finite, canonical_eq_int_iff.2 finite, ← canonical_eq_int_iff]
      exact eq_comm
  | none =>
      match v with
      | .tuple vs =>
          cases w with
          | tuple ws =>
              rw [isHashable, isHashable] at key
              simp only [agrees, canonical, tuple.injEq]
              exact agreesAll_iff vs ws key
          | double x => cases x <;> simp [agrees, canonical]
          | _ => simp [agrees, canonical]
      | .list vs | .set vs | .mapping vs =>
          -- This is no key, so the other value is one; and no key is a list, a set or a mapping.
          have key : w.isHashable = true := by simpa [isHashable] using key
          rcases w with _ | _ | _ | ⟨_ | _ | _⟩ | _ | _ | _ | _ | _ | _ | _ | _ | _ <;>
            simp [agrees, canonical, isHashable] at key ⊢
      | .null | .bool _ | .int _ | .double _ | .text _ | .bytes _ | .date _ | .dateTime _
      | .zoned .. =>
          exact agrees_iff_of_simple finite rfl rfl w

theorem agreesAll_iff (vs ws : List Value) (keys : areHashable vs = true ∨ areHashable ws = true) :
    agreesAll vs ws = true ↔ canonicalAll vs = canonicalAll ws := by
  match vs, ws with
  | [], [] => simp [agreesAll]
  | [], w :: ws => simp [agreesAll, canonicalAll]
  | v :: vs, [] => simp [agreesAll, canonicalAll]
  | v :: vs, w :: ws =>
      simp only [areHashable, Bool.and_eq_true] at keys
      simp only [agreesAll, canonicalAll, Bool.and_eq_true, List.cons.injEq]
      rw [agrees_iff v w (keys.imp And.left And.left),
        agreesAll_iff vs ws (keys.imp And.right And.right)]

end

mutual

theorem isHashable_canonical (v : Value) : v.canonical.isHashable = v.isHashable := by
  match v with
  | .tuple vs =>
      simp only [canonical, isHashable]
      exact areHashable_canonicalAll vs
  | .double (.finite ..) | .double (.infinite _) | .double (.nan _) | .null | .bool _ | .int _
  | .text _ | .bytes _ | .date _ | .dateTime _ | .zoned .. | .list _ | .set _ | .mapping _ =>
      simp [canonical, isHashable]

theorem areHashable_canonicalAll (vs : List Value) :
    areHashable (canonicalAll vs) = areHashable vs := by
  match vs with
  | [] => simp [canonicalAll, areHashable]
  | v :: vs =>
      simp only [canonicalAll, areHashable]
      rw [isHashable_canonical v, areHashable_canonicalAll vs]

end

/-- Both values can be keys if one of them can and they agree. -/
theorem isHashable_of_agrees {v w : Value} (key : w.isHashable = true) (same : v.agrees w = true) :
    v.isHashable = true := by
  rw [← isHashable_canonical, (agrees_iff v w (.inr key)).1 same, isHashable_canonical, key]

theorem agrees_comm {v w : Value} (key : v.isHashable = true ∨ w.isHashable = true) :
    v.agrees w = w.agrees v := by
  rw [Bool.eq_iff_iff, agrees_iff v w key, agrees_iff w v key.symm]
  exact eq_comm

/-- What agrees with a key agrees with the same values as the key. -/
theorem agrees_congr {v key : Value} (hashable : key.isHashable = true)
    (same : v.agrees key = true) (w : Value) : v.agrees w = key.agrees w := by
  have hashable' := isHashable_of_agrees hashable same
  rw [Bool.eq_iff_iff, agrees_iff v w (.inl hashable'), agrees_iff key w (.inl hashable),
    (agrees_iff v key (.inr hashable)).1 same]

/-- What agrees with the same value as a key agrees with the key. -/
theorem agrees_of_agrees {v key w : Value} (hashable : key.isHashable = true)
    (left : v.agrees w = true) (right : key.agrees w = true) : v.agrees key = true := by
  have back : w.agrees key = true := (agrees_comm (.inl hashable)).symm.trans right
  have hashable' := isHashable_of_agrees hashable back
  rw [agrees_congr hashable' left, back]

/-- Neither of the values agrees with the other. -/
def Apart (v w : Value) : Prop := v.agrees w = false ∧ w.agrees v = false

theorem Apart.symm {v w : Value} (h : Apart v w) : Apart w v := And.symm h

end Value

/-! ## Writing one entry -/

namespace Record

variable {r es es' : Record} {key v : Value}

theorem find?_cons (e : Value × Value) (r : Record) (key : Value) :
    find? (e :: r) key = if e.1.agrees key then some e.2 else find? r key := by
  rw [find?, List.find?_cons]
  cases e.1.agrees key <;> rfl

theorem find?_put (hashable : key.isHashable = true) (r : Record) (v key' : Value) :
    find? (r.put key v) key' = if key.agrees key' then some v else find? r key' := by
  induction r with
  | nil => rw [put, find?_cons]
  | cons e r ih =>
      obtain ⟨k, w⟩ := e
      by_cases found : k.agrees key = true
      · rw [put, if_pos found, find?_cons, find?_cons, Value.agrees_congr hashable found]
        cases key.agrees key' <;> rfl
      · rw [put, if_neg found, find?_cons, ih, find?_cons]
        by_cases same : key.agrees key' = true
        · have other : ¬ k.agrees key' = true := fun agrees =>
            found (Value.agrees_of_agrees hashable agrees same)
          rw [if_neg other, if_pos same, if_pos same]
        · rw [if_neg same, if_neg same]

/-- To write what is there already changes nothing. -/
theorem put_self (found : find? r key = some v) : r.put key v = r := by
  induction r with
  | nil => exact absurd found (by simp [find?])
  | cons e r ih =>
      obtain ⟨k, w⟩ := e
      rw [find?_cons] at found
      by_cases same : k.agrees key = true
      · rw [if_pos same] at found
        rw [put, if_pos same, ← Option.some.inj found]
      · rw [if_neg same] at found
        rw [put, if_neg same, ih found]

/-! ## Writing several entries -/

/-- Writes entries one after another. -/
def putAll (r es : Record) : Record := es.foldl (fun r e => r.put e.1 e.2) r

@[simp] theorem putAll_nil (r : Record) : r.putAll [] = r := rfl

@[simp] theorem putAll_cons (r : Record) (e : Value × Value) (es : Record) :
    r.putAll (e :: es) = (r.put e.1 e.2).putAll es := rfl

theorem putAll_append (r es es' : Record) : r.putAll (es ++ es') = (r.putAll es).putAll es' :=
  List.foldl_append

theorem putAll_self (found : ∀ e ∈ es, find? r e.1 = some e.2) : r.putAll es = r := by
  induction es with
  | nil => rfl
  | cons e es ih =>
      rw [List.forall_mem_cons] at found
      rw [putAll_cons, put_self found.1, ih found.2]

/-- A key is not found among keys that are apart from one with which it agrees. -/
theorem find?_eq_none_of_apart {k : Value} (hashable : k.isHashable = true)
    (found : k.agrees key = true) (apart : ∀ e ∈ es, k.Apart e.1) : find? es key = none := by
  rw [find?, Option.map_eq_none_iff, List.find?_eq_none]
  intro e member same
  exact absurd (Value.agrees_of_agrees hashable same found) (by simp [(apart e member).2])

/-- Entries as a mapping holds them: the keys can be keys, and no two of them agree. -/
structure IsProper (es : Record) : Prop where
  hashable : ∀ e ∈ es, e.1.isHashable = true
  apart : es.Pairwise fun e e' => e.1.Apart e'.1

namespace IsProper

theorem head {e : Value × Value} (h : IsProper (e :: es)) :
    e.1.isHashable = true ∧ ∀ e' ∈ es, e.1.Apart e'.1 :=
  ⟨h.hashable e List.mem_cons_self, (List.pairwise_cons.1 h.apart).1⟩

theorem sublist (h : IsProper es) (sub : es'.Sublist es) : IsProper es' :=
  ⟨fun e member => h.hashable e (sub.subset member), h.apart.sublist sub⟩

theorem tail {e : Value × Value} (h : IsProper (e :: es)) : IsProper es :=
  h.sublist (List.sublist_cons_self e es)

theorem perm (h : IsProper es) (same : es.Perm es') : IsProper es' :=
  ⟨fun e member => h.hashable e (same.mem_iff.2 member),
    h.apart.perm same Value.Apart.symm⟩

/-- The entry under a key is the only one. -/
theorem find?_eq_some_iff (h : IsProper es) :
    find? es key = some v ↔ ∃ e ∈ es, e.1.agrees key = true ∧ e.2 = v := by
  induction es with
  | nil => simp [find?]
  | cons e es ih =>
      obtain ⟨hashable, apart⟩ := h.head
      rw [find?_cons, List.exists_mem_cons_iff, ← ih h.tail]
      by_cases found : e.1.agrees key = true
      · simp [found, find?_eq_none_of_apart hashable found apart]
      · simp [found]

theorem find?_perm (h : IsProper es) (same : es.Perm es') (key : Value) :
    find? es key = find? es' key := by
  ext v
  rw [h.find?_eq_some_iff, (h.perm same).find?_eq_some_iff]
  simp only [same.mem_iff]

theorem find?_putAll (h : IsProper es) (r : Record) (key : Value) :
    find? (r.putAll es) key = (find? es key).or (find? r key) := by
  induction es generalizing r with
  | nil => rfl
  | cons e es ih =>
      obtain ⟨hashable, apart⟩ := h.head
      rw [putAll_cons, ih h.tail, find?_put hashable, find?_cons]
      by_cases found : e.1.agrees key = true
      · rw [if_pos found, if_pos found, find?_eq_none_of_apart hashable found apart]
        rfl
      · rw [if_neg found, if_neg found]

/-- What is written over an entry goes to its place, and the rest is written behind it. -/
theorem cons_putAll (h : IsProper es) (k w : Value) (r : Record) :
    putAll ((k, w) :: r) es =
      (k, (find? es k).getD w) :: r.putAll (es.filter fun e => !e.1.agrees k) := by
  induction es generalizing r w with
  | nil => rfl
  | cons e es ih =>
      obtain ⟨hashable, apart⟩ := h.head
      have sides : k.agrees e.1 = e.1.agrees k := Value.agrees_comm (.inr hashable)
      rw [putAll_cons, put, find?_cons, sides]
      by_cases found : e.1.agrees k = true
      · rw [if_pos found, if_pos found, ih h.tail, find?_eq_none_of_apart hashable found apart,
          List.filter_cons_of_neg (by simp [found])]
        rfl
      · rw [if_neg found, if_neg found, ih h.tail, List.filter_cons_of_pos (by simp [found]),
          putAll_cons]

theorem nil_putAll (h : IsProper es) : putAll [] es = es := by
  induction es with
  | nil => rfl
  | cons e es ih =>
      obtain ⟨hashable, apart⟩ := h.head
      have first : putAll [] (e :: es) = putAll [(e.1, e.2)] es := rfl
      have rest : (es.filter fun e' => !e'.1.agrees e.1) = es :=
        List.filter_eq_self.2 fun e' member => by simp [(apart e' member).2]
      rw [first, h.tail.cons_putAll, rest, ih h.tail,
        find?_eq_none_of_apart hashable (Value.agrees_self e.1) apart]
      rfl

/-- The order in which entries are written makes no difference but to the order of the new ones. -/
theorem putAll_perm (h : IsProper es) (same : es.Perm es') (r : Record) :
    (r.putAll es).Perm (r.putAll es') := by
  -- Entry by entry of the record: what is written over the first is the same in either order.
  induction r generalizing es es' with
  | nil =>
      rw [h.nil_putAll, (h.perm same).nil_putAll]
      exact same
  | cons e r ih =>
      obtain ⟨k, w⟩ := e
      rw [h.cons_putAll, (h.perm same).cons_putAll, h.find?_perm same]
      exact (ih (h.sublist List.filter_sublist) (same.filter _)).cons _

end IsProper

end Record

end MinuteBook
