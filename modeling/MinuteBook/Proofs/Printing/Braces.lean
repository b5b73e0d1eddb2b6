import MinuteBook.Markup.Render
import MinuteBook.Proofs.Attempts
import MinuteBook.Proofs.Number.Grouped
import MinuteBook.Proofs.Store.Every

/-!
# Where braces in a text come from

The texts of numbers and dates hold no opening brace, and no filter puts one into a text. So what a
document prints for a value is free of them if every text in the value is (`Value.unbraced_plain`).
A value passes that on to its parts, so it goes for all that is found in a store whose answers are
free of braces (`Value.Unbraced.inherited`).
-/

namespace MinuteBook

/-- A text without an opening brace. -/
def Text.Unbraced (s : List Char) : Prop := '\x7b' ∉ s

open Text (Unbraced)

instance (s : List Char) : Decidable (Unbraced s) := inferInstanceAs (Decidable ('\x7b' ∉ s))

variable {s t : List Char}

namespace Text

@[simp] theorem unbraced_nil : Unbraced [] := List.not_mem_nil

@[simp] theorem unbraced_cons_iff {c : Char} : Unbraced (c :: s) ↔ '\x7b' ≠ c ∧ Unbraced s := by
  simp [Unbraced]

@[simp] theorem unbraced_append_iff : Unbraced (s ++ t) ↔ Unbraced s ∧ Unbraced t := by
  simp [Unbraced]

theorem Unbraced.subset (h : Unbraced t) (sub : s ⊆ t) : Unbraced s :=
  fun inside => h (sub inside)

/-! ## Numbers -/

@[simp] theorem unbraced_natDigits (n : Nat) : Unbraced (natDigits n) := by
  intro inside
  exact absurd (isDigit_of_mem_natDigits inside) (by decide)

@[simp] theorem unbraced_replicate_zero (n : Nat) : Unbraced (List.replicate n '0') := by
  intro inside
  exact absurd (List.eq_of_mem_replicate inside) (by decide)

theorem unbraced_int (n : Int) : Unbraced (int n).toList := by
  rw [int, String.toList_ofList]
  split <;> simp

theorem Unbraced.dropRight {p : Char → Bool} (h : Unbraced s) :
    Unbraced (s.reverse.dropWhile p).reverse := by
  refine h.subset fun c inside => ?_
  exact List.mem_reverse.1 ((List.dropWhile_subset p) (List.mem_reverse.1 inside))

end Text

namespace Double

theorem unbraced_layOut (h : Unbraced s) (place : Int) : Unbraced (layOut s place) := by
  have front (n : Nat) : Unbraced (s.take n) := h.subset (List.take_subset n s)
  have back (n : Nat) : Unbraced (s.drop n) := h.subset (List.drop_subset n s)
  unfold layOut
  split
  · split
    · simp [h]
    · split
      · simp [h]
      · simp [front, back]
  · have point : Unbraced (if s.length ≤ 1 then [] else '.' :: s.drop 1) := by
      split
      · exact Text.unbraced_nil
      · exact Text.unbraced_cons_iff.2 ⟨by decide, back 1⟩
    have sign : '\x7b' ≠ if place ≤ 0 then '-' else '+' := by
      split <;> decide
    have zero (e : Nat) : Unbraced (if e < 10 then ['0'] else []) := by
      split <;> decide
    simp only [Text.unbraced_append_iff, Text.unbraced_cons_iff]
    exact ⟨⟨⟨⟨front 1, point⟩, by decide, sign, Text.unbraced_nil⟩, zero _⟩,
      Text.unbraced_natDigits _⟩

theorem unbraced_text (x : Double) : Unbraced x.text.toList := by
  cases x with
  | nan mark =>
      show Unbraced "nan".toList
      decide
  | infinite negative => cases negative <;> decide
  | finite negative units =>
      simp only [text, String.toList_ofList]
      have body : Unbraced (if units = 0 then ['0', '.', '0'] else
          layOut ((Text.natDigits (shortest units).digits).reverse.dropWhile (· == '0')).reverse
            ((Text.natDigits (shortest units).digits).length + (shortest units).exponent)) := by
        split
        · decide
        · exact unbraced_layOut (Text.unbraced_natDigits _).dropRight _
      split
      · exact Text.unbraced_cons_iff.2 ⟨by decide, body⟩
      · exact body

end Double

/-! ## Dates -/

theorem unbraced_padded (width n : Nat) : Unbraced (padded width n) := by
  simp [padded]

namespace Date

theorem unbraced_isoChars (d : Date) : Unbraced d.isoChars := by
  simp [isoChars, unbraced_padded]

theorem unbraced_iso (d : Date) : Unbraced d.iso.toList := by
  rw [iso, String.toList_ofList]
  exact unbraced_isoChars d

theorem unbraced_long (d : Date) : Unbraced d.long.toList := by
  have names : ∀ name ∈ monthNames, Unbraced name.toList := by
    decide
  have name : Unbraced (monthNames[d.month - 1]?.getD "").toList := by
    cases found : monthNames[d.month - 1]? with
    | none => exact Text.unbraced_nil
    | some name => exact names name (List.mem_of_getElem? found)
  simp [long, Text.nat, name]

end Date

theorem DateTime.unbraced_iso (t : DateTime) : Unbraced t.iso.toList := by
  have micro : Unbraced (if t.micro = 0 then [] else '.' :: padded 6 t.micro) := by
    split <;> simp [unbraced_padded]
  rw [iso, isoWith, String.toList_ofList, clock]
  simp [Date.unbraced_isoChars, unbraced_padded, micro]

theorem Zone.unbraced_isoChars (z : Zone) : Unbraced z.isoChars := by
  rw [isoChars]
  split <;> simp [unbraced_padded]

theorem DateTime.unbraced_zonedIso (t : DateTime) (z : Zone) :
    Unbraced (t.zonedIsoWith 'T' z).toList := by
  rw [zonedIsoWith, String.toList_append, String.toList_ofList]
  exact Text.unbraced_append_iff.2 ⟨t.unbraced_iso, z.unbraced_isoChars⟩

/-! ## Values -/

namespace Value

mutual

/-- The texts in a value, at any depth. Keys are not among them. -/
def texts : Value → List String
  | .text s => [s]
  | .list vs => textsAll vs
  | .tuple vs => textsAll vs
  | .set vs => textsAll vs
  | .mapping es => textsEntries es
  | _ => []

def textsAll : List Value → List String
  | [] => []
  | v :: vs => texts v ++ textsAll vs

def textsEntries : Record → List String
  | [] => []
  | (_, v) :: es => texts v ++ textsEntries es

end

/-- No text in a value holds an opening brace. -/
def Unbraced (v : Value) : Prop := ∀ text ∈ v.texts, Text.Unbraced text.toList

theorem unbraced_textsAll_iff {vs : List Value} :
    (∀ text ∈ textsAll vs, Text.Unbraced text.toList) ↔ ∀ v ∈ vs, v.Unbraced := by
  induction vs with
  | nil => simp [textsAll]
  | cons v vs ih => rw [textsAll, List.forall_mem_append, List.forall_mem_cons, ih, Unbraced]

theorem unbraced_textsEntries_iff {es : Record} :
    (∀ text ∈ textsEntries es, Text.Unbraced text.toList) ↔ ∀ e ∈ es, e.2.Unbraced := by
  induction es with
  | nil => simp [textsEntries]
  | cons e es ih => rw [textsEntries, List.forall_mem_append, List.forall_mem_cons, ih, Unbraced]

theorem unbraced_mapping_iff {es : Record} : (mapping es).Unbraced ↔ ∀ e ∈ es, e.2.Unbraced := by
  rw [Unbraced, texts]
  exact unbraced_textsEntries_iff

theorem Unbraced.inherited : Inherited Unbraced where
  items {v vs} items free := by
    cases v with
    | list _ =>
        obtain rfl := Option.some.inj items
        rw [Unbraced, texts] at free
        exact unbraced_textsAll_iff.1 free
    | tuple _ =>
        obtain rfl := Option.some.inj items
        rw [Unbraced, texts] at free
        exact unbraced_textsAll_iff.1 free
    | _ => exact absurd items (by simp [items?])
  entries free := unbraced_mapping_iff.1 free

theorem unbraced_commaSeparated {parts : List String}
    (h : ∀ part ∈ parts, Text.Unbraced part.toList) :
    Text.Unbraced (commaSeparated parts).toList := by
  rw [commaSeparated, String.toList_intercalate]
  induction parts with
  | nil => exact Text.unbraced_nil
  | cons part parts ih =>
      rw [List.forall_mem_cons] at h
      cases parts with
      | nil => simpa using h.1
      | cons next parts =>
          rw [List.map_cons, List.map_cons, List.intercalate_cons_cons]
          exact Text.unbraced_append_iff.2
            ⟨Text.unbraced_append_iff.2 ⟨h.1, by decide⟩, ih h.2⟩

theorem unbraced_wholeText {n : Int} {out : String} (h : wholeText n = .ok out) :
    Text.Unbraced out.toList := by
  rw [wholeText, Text.int?] at h
  split at h
  · rename_i found
    split at found
    · obtain rfl := Option.some.inj found
      obtain rfl := Except.ok.inj h
      exact Text.unbraced_int n
    · exact absurd found (by simp)
  · exact absurd h (by simp)

theorem unbraced_doublePlain (x : Double) : Text.Unbraced (doublePlain x).toList := by
  rw [doublePlain]
  split
  · exact Text.unbraced_int _
  · exact x.unbraced_text

mutual

/-- What a document prints for a value holds no brace if no text in the value does. -/
theorem unbraced_plain {v : Value} {out : String} (free : v.Unbraced) (h : v.plain = .ok out) :
    Text.Unbraced out.toList := by
  match v with
  | .null =>
      obtain rfl := Except.ok.inj h
      exact Text.unbraced_nil
  | .text s =>
      obtain rfl := Except.ok.inj h
      exact free s (by simp [texts])
  | .bool b =>
      obtain rfl := Except.ok.inj h
      cases b <;> decide
  | .int n => exact unbraced_wholeText h
  | .double x =>
      obtain rfl := Except.ok.inj h
      exact unbraced_doublePlain x
  | .date d =>
      obtain rfl := Except.ok.inj h
      exact d.unbraced_iso
  | .dateTime t =>
      obtain rfl := Except.ok.inj h
      exact t.unbraced_iso
  | .zoned t z =>
      obtain rfl := Except.ok.inj h
      exact t.unbraced_zonedIso z
  | .list vs =>
      rw [plain] at h
      obtain ⟨parts, all, h⟩ := bind_eq_ok.1 h
      obtain rfl := Except.ok.inj h
      exact unbraced_commaSeparated
        (unbraced_plainAll (Unbraced.inherited.items (v := .list vs) rfl free) all)
  | .tuple vs =>
      rw [plain] at h
      obtain ⟨parts, all, h⟩ := bind_eq_ok.1 h
      obtain rfl := Except.ok.inj h
      exact unbraced_commaSeparated
        (unbraced_plainAll (Unbraced.inherited.items (v := .tuple vs) rfl free) all)
  | .bytes _ | .set _ | .mapping _ =>
      obtain rfl := Except.ok.inj h
      exact Text.unbraced_nil

theorem unbraced_plainAll {vs : List Value} {parts : List String} (free : ∀ v ∈ vs, v.Unbraced)
    (h : plainAll vs = .ok parts) : ∀ part ∈ parts, Text.Unbraced part.toList := by
  match vs with
  | [] =>
      rw [plainAll] at h
      obtain rfl := Except.ok.inj h
      exact List.forall_mem_nil _
  | v :: vs =>
      rw [List.forall_mem_cons] at free
      rw [plainAll] at h
      split at h
      · exact unbraced_plainAll free.2 h
      · obtain ⟨first, head, h⟩ := bind_eq_ok.1 h
        obtain ⟨rest, tail, h⟩ := bind_eq_ok.1 h
        obtain rfl := Except.ok.inj h
        exact List.forall_mem_cons.2 ⟨unbraced_plain free.1 head, unbraced_plainAll free.2 tail⟩

end

end Value

/-! ## Filters -/

theorem unbraced_hundredthsText (n : Nat) : Unbraced (hundredthsText n) := by
  intro inside
  exact absurd (mem_hundredthsText inside) (by decide)

namespace Filter

variable {v : Value} {text : String}

theorem unbraced_longDate (h : Unbraced text.toList) : Unbraced (longDate v text).toList := by
  rw [longDate]
  split
  · exact Date.unbraced_long _
  · exact h

theorem unbraced_money (h : Unbraced text.toList) : Unbraced (money v text).toList := by
  unfold money
  split
  · rw [String.toList_append, String.toList_ofList, Text.unbraced_append_iff]
    refine ⟨?_, unbraced_hundredthsText _⟩
    split <;> decide
  · exact h

theorem unbraced_dropTrailing (h : Unbraced s) : Unbraced (dropTrailing s) := by
  have once := h.dropRight (p := (· == '0'))
  have twice := once.dropRight (p := (· == '.'))
  rwa [List.reverse_reverse] at twice

theorem unbraced_pct (h : Unbraced text.toList) : Unbraced (pct v text).toList := by
  unfold pct
  split
  · rename_i negative units found
    have digits : Unbraced (if negative then
        '-' :: hundredthsText (Double.hundredths units) else
        hundredthsText (Double.hundredths units)) := by
      split
      · exact Text.unbraced_cons_iff.2 ⟨by decide, unbraced_hundredthsText _⟩
      · exact unbraced_hundredthsText _
    simp only [String.toList_append, Text.unbraced_append_iff]
    refine ⟨?_, by decide⟩
    generalize (if negative then '-' :: hundredthsText (Double.hundredths units) else
      hundredthsText (Double.hundredths units)) = kept at digits ⊢
    split
    · decide
    · rw [String.toList_ofList]
      exact unbraced_dropTrailing digits
  · exact h

end Filter

/-- The filters that are known from the start put no brace into a text. -/
theorem Filters.unbraced_apply {name : Option String} {v : Value} {text : String}
    (h : Unbraced text.toList) : Unbraced (builtin.apply name v text).toList := by
  rw [apply]
  split
  · rename_i f found
    obtain ⟨n, -, entry⟩ := Option.bind_eq_some_iff.1 found
    obtain ⟨before, after, cut, -⟩ := List.lookup_eq_some_iff.1 entry
    have known : (n, f) ∈ builtin := by
      simp [cut]
    simp only [builtin, List.mem_cons, Prod.mk.injEq, List.not_mem_nil, or_false] at known
    rcases known with ⟨-, rfl⟩ | ⟨-, rfl⟩ | ⟨-, rfl⟩
    · exact Filter.unbraced_longDate h
    · exact Filter.unbraced_money h
    · exact Filter.unbraced_pct h
  · exact h

/-! ## Stores -/

namespace Store

variable {s : Store} {path : String}

/-- The texts in the answers hold no brace. The description of the template may hold what it will:
it is never printed. -/
def Unbraced (s : Store) : Prop := (Value.mapping s.values).Unbraced

theorem unbraced_iff : s.Unbraced ↔ s.Every Value.Unbraced := Value.unbraced_mapping_iff

theorem Unbraced.set (free : s.Unbraced) (key : String) {v : Value} (h : v.Unbraced) :
    (s.set key v).Unbraced :=
  unbraced_iff.2 ((unbraced_iff.1 free).set key h)

theorem Unbraced.itemsAt (free : s.Unbraced) : ∀ item ∈ Markup.itemsAt s path, item.Unbraced :=
  (unbraced_iff.1 free).itemsAt Value.Unbraced.inherited

/-- What a document prints for what is found holds no brace. -/
theorem Unbraced.plain (free : s.Unbraced) {v : Value} (found : s.lookup path = some v)
    {out : String} (h : v.plain = .ok out) : Text.Unbraced out.toList := by
  rcases (unbraced_iff.1 free).lookup Value.Unbraced.inherited found with within | rfl
  · exact Value.unbraced_plain within h
  · obtain rfl := Except.ok.inj h
    exact Text.unbraced_nil

end Store

end MinuteBook
