import Mathlib.Tactic.TFAE
import MinuteBook.Proofs.Form.Reading
import MinuteBook.Proofs.Value.Equality

/-!
# Definitions written and read again

The definition of a template leaves out what is not set, and reading fills in what is left out.
What comes of a field in this way is its `Field.restored`: a placeholder or a help text that is
given but not present is gone, and so is a rule that says nothing; a condition that names no field
but says something about one cannot be read. All else comes back. So a template is read again as it
was exactly if each of its fields is `Field.Restorable` (`Template.parse_toValue_tfae`).
-/

namespace MinuteBook

/-! ## Equality

Definitions are equal if their parts are; values are compared as items of a sequence are. -/

/-- Both values are absent, or both are there and the same by a test. -/
def bothOrNeither {α : Type} (same : α → α → Bool) : Option α → Option α → Bool
  | none, none => true
  | some a, some b => same a b
  | _, _ => false

theorem bothOrNeither_self {α : Type} {same : α → α → Bool} (h : ∀ a, same a a = true)
    (o : Option α) : bothOrNeither same o o = true := by
  cases o with
  | none => rfl
  | some a => exact h a

def Condition.agrees (c d : Condition) : Bool :=
  c.field.agrees d.field && c.equals.agrees d.equals && c.includes.agrees d.includes

def Validation.agrees (r q : Validation) : Bool :=
  r.notEqualField.agrees q.notEqualField && r.gteField.agrees q.gteField &&
    r.message.agrees q.message

def Computation.agrees (c d : Computation) : Bool :=
  c.function.agrees d.function && (Value.mapping c.args).agrees (.mapping d.args)

def Field.agrees (f g : Field) : Bool :=
  f.id.agrees g.id && f.label.agrees g.label && f.type.agrees g.type && f.required == g.required &&
    f.minItems.agrees g.minItems && Value.agreesAll f.options g.options &&
    f.placeholder.agrees g.placeholder && f.help.agrees g.help && f.hidden == g.hidden &&
    bothOrNeither Condition.agrees f.visibleIf g.visibleIf &&
    bothOrNeither Condition.agrees f.requiredIf g.requiredIf &&
    bothOrNeither Validation.agrees f.validation g.validation &&
    bothOrNeither Computation.agrees f.computation g.computation

/-- The fields agree one by one, and there are as many. -/
def Field.agreeAll : List Field → List Field → Bool
  | [], [] => true
  | f :: fs, g :: gs => f.agrees g && agreeAll fs gs
  | _, _ => false

def Template.agrees (t u : Template) : Bool :=
  t.id.agrees u.id && t.name.agrees u.name && t.version == u.version &&
    t.typeTag.agrees u.typeTag && t.fileNamePattern.agrees u.fileNamePattern &&
    Field.agreeAll t.fields u.fields && t.title.agrees u.title && t.body.agrees u.body

theorem Condition.agrees_self (c : Condition) : c.agrees c = true := by
  simp [agrees, Value.agrees_self]

theorem Validation.agrees_self (r : Validation) : r.agrees r = true := by
  simp [agrees, Value.agrees_self]

theorem Computation.agrees_self (c : Computation) : c.agrees c = true := by
  simp [agrees, Value.agrees_self]

theorem Field.agrees_self (f : Field) : f.agrees f = true := by
  simp [agrees, Value.agrees_self, Value.agreesAll_self, bothOrNeither_self, Condition.agrees_self,
    Validation.agrees_self, Computation.agrees_self]

theorem Field.agreeAll_self (fs : List Field) : agreeAll fs fs = true := by
  induction fs with
  | nil => rfl
  | cons f fs ih => rw [agreeAll, f.agrees_self, ih, Bool.and_self]

theorem Template.agrees_self (t : Template) : t.agrees t = true := by
  simp [agrees, Value.agrees_self, Field.agreeAll_self]

/-! ## Rules -/

namespace Condition

/-- What is read again of a condition: nothing, if it says nothing. -/
def restored (c : Condition) : Option Condition := if c.field = .null then none else some c

/-- A condition that names no field must say nothing else. -/
def CanBeRead (c : Condition) : Prop := c.field ≠ .null ∨ c.equals = .null ∧ c.includes = .null

theorem ofValue_toValue_eq_ok_iff (c : Condition) (r : Option Condition) :
    ofValue c.toValue = .ok r ↔ c.CanBeRead ∧ r = c.restored := by
  obtain ⟨field, equals, includes⟩ := c
  by_cases names : field = .null <;> by_cases scalar : equals = .null <;>
    by_cases needle : includes = .null <;>
    simp [ofValue, toValue, CanBeRead, restored, Value.isPresent, Value.require, Value.get,
      Value.getD, Record.unlessNull, Record.get?_cons, names, scalar, needle, eq_comm]

end Condition

namespace Validation

/-- What is read again of a validation: nothing, if it says nothing. -/
def restored (r : Validation) : Option Validation :=
  if r.notEqualField = .null ∧ r.gteField = .null ∧ r.message = .null then none else some r

theorem ofValue_toValue (r : Validation) : ofValue r.toValue = .ok r.restored := by
  obtain ⟨different, order, message⟩ := r
  by_cases noOther : different = .null <;> by_cases noEarlier : order = .null <;>
    by_cases unsaid : message = .null <;>
    simp [ofValue, toValue, restored, Value.isPresent, Value.get, Value.getD, Record.unlessNull,
      Record.get?_cons, noOther, noEarlier, unsaid]

end Validation

theorem Computation.ofValue_toValue (c : Computation) : ofValue c.toValue = .ok (some c) := by
  obtain ⟨function, args⟩ := c
  cases args <;>
    simp [ofValue, toValue, Value.isPresent, Value.require, Value.get, Value.getD, Value.orElse,
      Value.toRecord, Record.get?_cons]

/-! ## Fields -/

namespace Field

variable {f g : Field}

/-- What is read again of a field. -/
def restored (f : Field) : Field :=
  { f with
    placeholder := f.placeholder.orElse .null
    help := f.help.orElse .null
    visibleIf := f.visibleIf.bind Condition.restored
    requiredIf := f.requiredIf.bind Condition.restored
    validation := f.validation.bind Validation.restored }

/-- A field whose definition says all of it. -/
structure Restorable (f : Field) : Prop where
  placeholder : f.placeholder = .null ∨ f.placeholder.isPresent = true
  help : f.help = .null ∨ f.help.isPresent = true
  visibleIf : ∀ c, f.visibleIf = some c → c.field ≠ .null
  requiredIf : ∀ c, f.requiredIf = some c → c.field ≠ .null
  validation : ∀ r, f.validation = some r →
    r.notEqualField ≠ .null ∨ r.gteField ≠ .null ∨ r.message ≠ .null

/-! What is left out of a definition is filled in again when it is read. -/

theorem flag_filled (b : Bool) :
    ((if b = true then some (Value.bool true) else none).getD .null).isPresent = b := by
  cases b <;> rfl

theorem value_filled (v : Value) : (if v = .null then none else some v).getD .null = v := by
  by_cases null : v = .null
  · simp [null]
  · simp [null]

theorem present_filled (v : Value) :
    (if v.isPresent = true then some v else none).getD .null = v.orElse .null := by
  rw [Value.orElse]
  split <;> rfl

theorem options_filled (vs : List Value) :
    (((Value.list vs).orElse .null).orElse (.tuple [])).iterate = .ok vs := by
  cases vs <;> rfl

theorem condition_filled (o r : Option Condition) :
    Condition.ofValue ((o.map Condition.toValue).getD .null) = .ok r ↔
      (∀ c, o = some c → c.CanBeRead) ∧ r = o.bind Condition.restored := by
  cases o with
  | none => simp [Condition.ofValue, Value.isPresent, eq_comm]
  | some c => simp [Condition.ofValue_toValue_eq_ok_iff]

theorem validation_filled (o : Option Validation) :
    Validation.ofValue ((o.map Validation.toValue).getD .null) =
      .ok (o.bind Validation.restored) := by
  cases o with
  | none => rfl
  | some r => exact r.ofValue_toValue

theorem computation_filled (o : Option Computation) :
    Computation.ofValue ((o.map Computation.toValue).getD .null) = .ok o := by
  cases o with
  | none => rfl
  | some c => exact c.ofValue_toValue

/-- The definition of a field can be read if its conditions can, and gives what is restored of
it. -/
theorem ofValue_toValue_eq_ok_iff : ofValue f.toValue = .ok g ↔
    (∀ c, f.visibleIf = some c → c.CanBeRead) ∧ (∀ c, f.requiredIf = some c → c.CanBeRead) ∧
      g = f.restored := by
  have read : ofValue f.toValue = (do
      let visibleIf ← Condition.ofValue ((f.visibleIf.map Condition.toValue).getD .null)
      let requiredIf ← Condition.ofValue ((f.requiredIf.map Condition.toValue).getD .null)
      .ok { f.restored with visibleIf, requiredIf }) := by
    simp [ofValue, toValue, Value.require, Value.get, Value.getD, Record.get?_append,
      Record.get?_cons, Record.get?_flag, Record.get?_unlessNull, Record.get?_ifPresent,
      get?_ruleEntry, flag_filled, value_filled, present_filled, options_filled,
      validation_filled, computation_filled, restored]
  rw [read]
  constructor
  · intro h
    obtain ⟨visibleIf, first, h⟩ := bind_eq_ok.1 h
    obtain ⟨requiredIf, second, h⟩ := bind_eq_ok.1 h
    obtain ⟨readable, rfl⟩ := (condition_filled _ _).1 first
    obtain ⟨readable', rfl⟩ := (condition_filled _ _).1 second
    exact ⟨readable, readable', (Except.ok.inj h).symm⟩
  · rintro ⟨readable, readable', rfl⟩
    rw [(condition_filled _ _).2 ⟨readable, rfl⟩, ok_bind,
      (condition_filled _ _).2 ⟨readable', rfl⟩, ok_bind]
    rfl

theorem Restorable.restored_eq (h : f.Restorable) : f.restored = f := by
  have value {v : Value} (given : v = .null ∨ v.isPresent = true) : v.orElse .null = v := by
    rcases given with rfl | present
    · rfl
    · rw [Value.orElse, if_pos present]
  have condition {o : Option Condition} (named : ∀ c, o = some c → c.field ≠ .null) :
      o.bind Condition.restored = o := by
    cases o with
    | none => rfl
    | some c => exact if_neg (named c rfl)
  have validation : f.validation.bind Validation.restored = f.validation := by
    cases rule : f.validation with
    | none => rfl
    | some r =>
        apply if_neg
        rintro ⟨noOther, noEarlier, unsaid⟩
        rcases h.validation r rule with other | earlier | said
        · exact other noOther
        · exact earlier noEarlier
        · exact said unsaid
  rw [restored, value h.placeholder, value h.help, condition h.visibleIf, condition h.requiredIf,
    validation]

theorem Restorable.ofValue_toValue (h : f.Restorable) : ofValue f.toValue = .ok f :=
  ofValue_toValue_eq_ok_iff.2
    ⟨fun c rule => .inl (h.visibleIf c rule), fun c rule => .inl (h.requiredIf c rule),
      h.restored_eq.symm⟩

/-- A field that agrees with what is restored of it has lost nothing. -/
theorem restorable_of_agrees (h : f.restored.agrees f = true) : f.Restorable := by
  simp only [agrees, restored, Bool.and_eq_true] at h
  obtain ⟨⟨⟨⟨⟨⟨-, placeholder⟩, help⟩, -⟩, visibleIf⟩, requiredIf⟩, validation⟩ := h.1
  have value {v : Value} (same : (v.orElse .null).agrees v = true) :
      v = .null ∨ v.isPresent = true := by
    by_cases present : v.isPresent = true
    · exact .inr present
    · rw [Value.orElse, if_neg present, Value.agrees] at same
      exact .inl (eq_of_beq same)
  have condition {o : Option Condition}
      (same : bothOrNeither Condition.agrees (o.bind Condition.restored) o = true) :
      ∀ c, o = some c → c.field ≠ .null := by
    rintro c rfl unnamed
    rw [Option.bind_some, Condition.restored, if_pos unnamed] at same
    exact absurd same (by simp [bothOrNeither])
  refine ⟨value placeholder, value help, condition visibleIf, condition requiredIf, ?_⟩
  intro r rule
  by_contra silent
  simp only [not_or, not_not] at silent
  rw [rule, Option.bind_some, Validation.restored, if_pos silent] at validation
  exact absurd validation (by simp [bothOrNeither])

end Field

/-! ## Templates -/

namespace Template

variable {v : Value} {t t' : Template}

/-- The definition of a template is read field by field. -/
theorem ofValue_toValue (t : Template) : ofValue t.toValue = (do
    let fields ← t.fields.mapM fun f => Field.ofValue f.toValue
    .ok { t with fields }) := by
  have items : (t.fields.map Field.toValue).mapM Field.ofValue =
      t.fields.mapM fun f => Field.ofValue f.toValue := by
    rw [List.mapM_map]
    rfl
  simp [ofValue, toValue, Value.require, Value.getD, Value.toInt, Value.iterate, Record.get?_cons,
    items]

/-- A definition that is read again gives what is restored of each field, and all the rest. -/
theorem eq_restored_of_parse (h : parse t.toValue = .ok t') :
    t' = { t with fields := t.fields.map Field.restored } := by
  have read := (parse_eq_ok_iff.1 h).1
  rw [ofValue_toValue] at read
  obtain ⟨fields, each, read⟩ := bind_eq_ok.1 read
  obtain rfl := Except.ok.inj read
  have same : List.Forall₂ (fun f g => g = f.restored) t.fields fields :=
    (mapM_eq_ok_iff.1 each).imp fun f g done => (Field.ofValue_toValue_eq_ok_iff.1 done).2.2
  have restored : List.Forall₂ Eq fields (t.fields.map Field.restored) :=
    List.forall₂_map_right_iff.2 same.flip
  rw [List.forall₂_eq_eq_eq] at restored
  rw [restored]

theorem restorable_of_agreeAll {fields : List Field}
    (h : Field.agreeAll (fields.map Field.restored) fields = true) :
    ∀ f ∈ fields, f.Restorable := by
  induction fields with
  | nil => simp
  | cons f fields ih =>
      rw [List.map_cons, Field.agreeAll, Bool.and_eq_true] at h
      exact List.forall_mem_cons.2 ⟨Field.restorable_of_agrees h.1, ih h.2⟩

/-- The definition of a template that has been read can be read again and gives the same template,
or one that agrees with it, exactly if each of its fields is restorable. If it can be read, it gives
the same template but for what is not restored of its fields. -/
theorem parse_toValue_tfae (h : parse v = .ok t) :
    [parse t.toValue = .ok t, ∃ t', parse t.toValue = .ok t' ∧ t'.agrees t = true,
      ∀ f ∈ t.fields, f.Restorable].TFAE ∧
    ∀ t', parse t.toValue = .ok t' → t' = { t with fields := t.fields.map Field.restored } := by
  refine ⟨?_, fun t' => eq_restored_of_parse⟩
  tfae_have 1 → 2 := fun same => ⟨t, same, t.agrees_self⟩
  tfae_have 2 → 3 := by
    rintro ⟨t', read, same⟩
    obtain rfl := eq_restored_of_parse read
    simp only [agrees, Bool.and_eq_true] at same
    exact restorable_of_agreeAll same.1.1.2
  tfae_have 3 → 1 := by
    intro restorable
    obtain ⟨-, checked⟩ := parse_eq_ok_iff.1 h
    refine parse_eq_ok_iff.2 ⟨?_, checked⟩
    have fields : (t.fields.mapM fun f => Field.ofValue f.toValue) = .ok t.fields :=
      mapM_eq_ok_iff.2 (List.forall₂_same.2 fun f member => (restorable f member).ofValue_toValue)
    rw [ofValue_toValue, fields]
    rfl
  tfae_finish

/-- A form with flags, options and rules is read again as it was; one with an empty placeholder has
none afterwards. -/
theorem reread_without_blank :
    let field (placeholder : String) : Value := .mapping [("id", "a"), ("required", .bool true),
      ("minItems", .int 0), ("options", .list ["x", "y"]), ("placeholder", .text placeholder),
      ("visibleIf", .mapping [("field", "b"), ("equals", .bool false)]),
      ("validate", .mapping [("gteField", "c")]),
      ("compute", .mapping [("fn", "f"), ("args", .list [.list ["k", "v"]])])]
    let definition (placeholder : String) : Value := .mapping [("id", "t"), ("name", "T"),
      ("typeTag", "T"), ("fields", .list [field placeholder]), ("document", .mapping [])]
    (∃ t, parse (definition "p") = .ok t ∧ parse t.toValue = .ok t) ∧
      ∃ t, parse (definition "") = .ok t ∧ parse t.toValue ≠ .ok t := by
  intro field definition
  let form (placeholder : String) : Template := ⟨"t", "T", 1, "T", defaultPattern,
    [⟨"a", "a", "text", true, .int 0, ["x", "y"], .text placeholder, .null, false,
      some ⟨"b", .bool false, .null⟩, none, some ⟨.null, "c", .null⟩,
      some ⟨"f", [("k", "v")]⟩⟩], "", ""⟩
  have given : parse (definition "p") = .ok (form "p") := by decide +kernel
  have blank : parse (definition "") = .ok (form "") := by decide +kernel
  refine ⟨⟨form "p", given, ((parse_toValue_tfae given).1.out 0 2).2 ?_⟩,
    form "", blank, fun same => ?_⟩
  · intro f member
    obtain rfl := List.mem_singleton.1 member
    exact ⟨.inr rfl, .inl rfl, by simp, by simp, by simp⟩
  · have restorable := ((parse_toValue_tfae blank).1.out 0 2).1 same
    exact absurd (restorable _ List.mem_cons_self).placeholder (by decide)

end Template

end MinuteBook
