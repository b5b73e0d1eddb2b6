import MinuteBook.Catalogue
import MinuteBook.Proofs.Printing

/-!
# What reading a definition comes upon

The definition of a template is read key by key, and reading stops at the first fault. Loading looks
out for most faults and names them in its report, but two it does not foresee: that an optional key
is asked of what is no mapping, and that an infinity is read as a version. The definitions that come
upon one of these two first are the `Template.Misshapen` ones (`Template.strays_parse_iff`).
-/

namespace MinuteBook

open Catalogue (Defect)

/-- Faults that loading does not look out for. -/
def Fault.IsStray (f : Fault) : Prop := (Defect.ofFault f).isUnforeseen = true

instance : DecidablePred Fault.IsStray := fun f =>
  inferInstanceAs (Decidable ((Defect.ofFault f).isUnforeseen = true))

theorem LongOnly.not_strays {α : Type} {x : Except Fault α} (h : LongOnly x) :
    ¬ FailsWith Fault.IsStray x := by
  rintro ⟨f, failed, stray⟩
  obtain rfl := h f failed
  exact absurd stray (by decide)

/-! ## Values -/

namespace Value

theorem require_eq_ok_iff {es : Record} {key : String} {w : Value} :
    (Value.mapping es).require key = .ok w ↔ Record.get? es key = some w := by
  rw [require]
  cases Record.get? es key <;> simp

theorem get_of_require {v w : Value} {key : String} (h : v.require key = .ok w) :
    v.get key = .ok w := by
  cases v with
  | mapping es =>
      rw [get, getD, require_eq_ok_iff.1 h]
      rfl
  | _ => exact absurd h (by simp [require])

theorem not_strays_require (v : Value) (key : String) :
    ¬ FailsWith Fault.IsStray (v.require key) := by
  cases v with
  | mapping es =>
      rw [require]
      split
      · exact not_failsWith_ok _
      · exact mt failsWith_error_iff.1 Bool.false_ne_true
  | _ => simp +decide [require]

/-- To ask for an optional key goes astray where there are no keys. -/
theorem strays_getD_iff (v : Value) (key : String) (default : Value) :
    FailsWith Fault.IsStray (v.getD key default) ↔ v.isMapping = false := by
  cases v <;> simp +decide [getD, isMapping]

theorem not_strays_iterate (v : Value) : ¬ FailsWith Fault.IsStray v.iterate := by
  cases v <;> simp +decide [iterate]

/-- To read a whole number goes astray at an infinity. -/
theorem strays_toInt_iff (v : Value) :
    FailsWith Fault.IsStray v.toInt ↔ ∃ neg, v = .double (.infinite neg) := by
  have spelled (s : Option String) : ¬ FailsWith Fault.IsStray (spelledInt s) := by
    rintro ⟨f, failed, stray⟩
    rw [eq_of_spelledInt_error failed] at stray
    exact absurd stray (by decide)
  match v with
  | .double (.infinite neg) => simp +decide [toInt]
  | .text s | .bytes b => simp [toInt, spelled]
  | .double (.finite ..) | .double (.nan _) | .null | .bool _ | .int _ | .date _ | .dateTime _
  | .zoned .. | .list _ | .tuple _ | .set _ | .mapping _ => simp +decide [toInt]

theorem not_strays_toPair (item : Value) : ¬ FailsWith Fault.IsStray item.toPair := by
  rw [toPair, failsWith_bind, not_or]
  refine ⟨item.not_strays_iterate, ?_⟩
  rintro ⟨items, -, strays⟩
  split at strays
  · split at strays
    · exact not_failsWith_pure _ strays
    · exact absurd (failsWith_throw_iff.1 strays) (by decide)
  · exact absurd (failsWith_throw_iff.1 strays) (by decide)

theorem not_strays_toRecord (v : Value) : ¬ FailsWith Fault.IsStray v.toRecord := by
  unfold toRecord
  split
  · exact not_failsWith_ok _
  · rw [failsWith_bind, not_or]
    refine ⟨v.not_strays_iterate, ?_⟩
    rintro ⟨items, -, strays⟩
    rcases failsWith_bind.1 strays with strays | ⟨pairs, -, strays⟩
    · obtain ⟨before, item, after, -, -, strays⟩ := failsWith_mapM.1 strays
      exact item.not_strays_toPair strays
    · exact not_failsWith_pure _ strays

end Value

/-! ## Rules -/

theorem Condition.not_strays_ofValue (v : Value) : ¬ FailsWith Fault.IsStray (ofValue v) := by
  rw [ofValue]
  split
  · rw [failsWith_bind, not_or]
    refine ⟨v.not_strays_require _, ?_⟩
    rintro ⟨field, given, strays⟩
    cases v with
    | mapping es => exact not_failsWith_pure _ strays
    | _ => exact absurd given (by simp [Value.require])
  · exact not_failsWith_ok _

/-- The first key of a validation that is asked for is an optional one. -/
theorem Validation.strays_ofValue_iff (v : Value) :
    FailsWith Fault.IsStray (ofValue v) ↔ v.isPresent = true ∧ v.isMapping = false := by
  rw [ofValue]
  split
  · rename_i present
    simp only [present, true_and]
    rw [failsWith_bind, Value.get, Value.strays_getD_iff, or_iff_left_iff_imp]
    rintro ⟨other, given, strays⟩
    cases v with
    | mapping es => exact absurd strays (not_failsWith_pure _)
    | _ => rfl
  · rename_i absent
    simp [absent]

theorem Computation.not_strays_ofValue (v : Value) : ¬ FailsWith Fault.IsStray (ofValue v) := by
  rw [ofValue]
  split
  · rw [failsWith_bind, not_or]
    refine ⟨v.not_strays_require _, ?_⟩
    rintro ⟨function, given, strays⟩
    cases v with
    | mapping es =>
        rw [Value.get, Value.getD, ok_bind, failsWith_bind] at strays
        rcases strays with strays | ⟨record, -, strays⟩
        · exact Value.not_strays_toRecord _ strays
        · exact not_failsWith_pure _ strays
    | _ => exact absurd given (by simp [Value.require])
  · exact not_failsWith_ok _

/-! ## Fields -/

namespace Field

variable {f : Field}

/-- Reading a field out of a mapping: what can fail is to find the id, to go through the options and
to read the rules. -/
theorem ofValue_mapping (es : Record) : ofValue (.mapping es) = (do
    let id ← (Value.mapping es).require "id"
    let options ← (((Record.get? es "options").getD .null).orElse (.tuple [])).iterate
    let visibleIf ← Condition.ofValue ((Record.get? es "visibleIf").getD .null)
    let requiredIf ← Condition.ofValue ((Record.get? es "requiredIf").getD .null)
    let validation ← Validation.ofValue ((Record.get? es "validate").getD .null)
    let computation ← Computation.ofValue ((Record.get? es "compute").getD .null)
    return {
      id
      label := (Record.get? es "label").getD id
      type := (Record.get? es "type").getD (.text "text")
      required := ((Record.get? es "required").getD .null).isPresent
      minItems := (Record.get? es "minItems").getD .null
      options
      placeholder := (Record.get? es "placeholder").getD .null
      help := (Record.get? es "help").getD .null
      hidden := ((Record.get? es "hidden").getD .null).isPresent
      visibleIf, requiredIf, validation, computation }) := rfl

/-- The id of a field stands in its definition. -/
theorem get_id_of_ofValue {v : Value} (h : ofValue v = .ok f) : v.get "id" = .ok f.id := by
  cases v with
  | mapping es =>
      rw [ofValue_mapping] at h
      obtain ⟨id, given, h⟩ := bind_eq_ok.1 h
      obtain ⟨options, -, h⟩ := bind_eq_ok.1 h
      obtain ⟨visibleIf, -, h⟩ := bind_eq_ok.1 h
      obtain ⟨requiredIf, -, h⟩ := bind_eq_ok.1 h
      obtain ⟨validation, -, h⟩ := bind_eq_ok.1 h
      obtain ⟨computation, -, h⟩ := bind_eq_ok.1 h
      obtain rfl := Except.ok.inj h
      exact Value.get_of_require given
  | _ => exact absurd h (by simp [ofValue, Value.require])

/-- A field that can be read up to its validation, which is given and is no mapping. -/
structure Misshapen (es : Record) : Prop where
  id : ∃ v, Record.get? es "id" = some v
  options : ∃ vs, (((Record.get? es "options").getD .null).orElse (.tuple [])).iterate = .ok vs
  visibleIf : ∃ c, Condition.ofValue ((Record.get? es "visibleIf").getD .null) = .ok c
  requiredIf : ∃ c, Condition.ofValue ((Record.get? es "requiredIf").getD .null) = .ok c
  validation : ∃ v, Record.get? es "validate" = some v ∧ v.isPresent = true ∧ v.isMapping = false

theorem strays_ofValue_mapping_iff (es : Record) :
    FailsWith Fault.IsStray (ofValue (.mapping es)) ↔ Misshapen es := by
  have validation : FailsWith Fault.IsStray
      (Validation.ofValue ((Record.get? es "validate").getD .null)) ↔
      ∃ v, Record.get? es "validate" = some v ∧ v.isPresent = true ∧ v.isMapping = false := by
    rw [Validation.strays_ofValue_iff]
    cases Record.get? es "validate" <;> simp [Value.isPresent]
  simp only [ofValue_mapping, failsWith_bind, Value.not_strays_require, Value.not_strays_iterate,
    Condition.not_strays_ofValue, Computation.not_strays_ofValue, not_failsWith_pure, validation,
    Value.require_eq_ok_iff, false_or, and_false, exists_false, or_false]
  constructor
  · rintro ⟨id, given, options, listed, visibleIf, visible, requiredIf, required, misshapen⟩
    exact ⟨⟨id, given⟩, ⟨options, listed⟩, ⟨visibleIf, visible⟩, ⟨requiredIf, required⟩, misshapen⟩
  · rintro ⟨⟨id, given⟩, ⟨options, listed⟩, ⟨visibleIf, visible⟩, ⟨requiredIf, required⟩, misshapen⟩
    exact ⟨id, given, options, listed, visibleIf, visible, requiredIf, required, misshapen⟩

theorem strays_ofValue_iff (v : Value) :
    FailsWith Fault.IsStray (ofValue v) ↔ ∃ es, v = .mapping es ∧ Misshapen es := by
  cases v with
  | mapping es => simp [strays_ofValue_mapping_iff]
  | _ => simp +decide [ofValue, Value.require]

end Field

/-! ## Templates -/

namespace Template

variable {v : Value} {t : Template}

/-- Reading a template out of a mapping: what can fail is to find what must be there, to read the
version and the fields, and to look for texts in the document. -/
theorem ofValue_mapping (es : Record) : ofValue (.mapping es) = (do
    let document ← (Value.mapping es).require "document"
    let id ← (Value.mapping es).require "id"
    let name ← (Value.mapping es).require "name"
    let version ← ((Record.get? es "version").getD (.int 1)).toInt
    let typeTag ← (Value.mapping es).require "typeTag"
    let items ← ((Record.get? es "fields").getD (.list [])).iterate
    let fields ← items.mapM Field.ofValue
    let title ← document.getD "title" (.text "")
    let body ← document.getD "bodyMd" (.text "")
    return {
      id, name, version, typeTag
      fileNamePattern := (Record.get? es "fileNamePattern").getD defaultPattern
      fields, title, body }) := rfl

/-- The ids that are checked are those of the fields that are read. -/
theorem fieldIdsOf_of_ofValue (h : ofValue v = .ok t) : fieldIdsOf v = .ok t.fieldIds := by
  cases v with
  | mapping es =>
      rw [ofValue_mapping] at h
      obtain ⟨document, -, h⟩ := bind_eq_ok.1 h
      obtain ⟨id, -, h⟩ := bind_eq_ok.1 h
      obtain ⟨name, -, h⟩ := bind_eq_ok.1 h
      obtain ⟨version, -, h⟩ := bind_eq_ok.1 h
      obtain ⟨typeTag, -, h⟩ := bind_eq_ok.1 h
      obtain ⟨items, listed, h⟩ := bind_eq_ok.1 h
      obtain ⟨fields, read, h⟩ := bind_eq_ok.1 h
      obtain ⟨title, -, h⟩ := bind_eq_ok.1 h
      obtain ⟨body, -, h⟩ := bind_eq_ok.1 h
      obtain rfl := Except.ok.inj h
      have ids : List.Forall₂ (fun item id => item.get "id" = .ok id) items
          (fields.map Field.id) := by
        rw [List.forall₂_map_right_iff]
        exact (mapM_eq_ok_iff.1 read).imp fun item f done => Field.get_id_of_ofValue done
      rw [fieldIdsOf, Value.getD, ok_bind, listed, ok_bind]
      exact mapM_eq_ok_iff.2 ids
  | _ => exact absurd h (by simp [ofValue, Value.require])

theorem parse_eq_ok_iff : parse v = .ok t ↔
    ofValue v = .ok t ∧ checkIds t.fieldIds = .ok () ∧ ∃ notes, t.notes = .ok notes := by
  constructor
  · intro h
    obtain ⟨ids, listed, h⟩ := bind_eq_ok.1 h
    obtain ⟨⟨⟩, checked, h⟩ := bind_eq_ok.1 h
    obtain ⟨u, read, h⟩ := bind_eq_ok.1 h
    obtain ⟨notes, noted, h⟩ := bind_eq_ok.1 h
    obtain rfl := Except.ok.inj h
    have read := mapError_eq_ok.1 read
    obtain rfl := Except.ok.inj
      ((mapError_eq_ok.1 listed).symm.trans (fieldIdsOf_of_ofValue read))
    exact ⟨read, checked, notes, mapError_eq_ok.1 noted⟩
  · rintro ⟨read, checked, notes, noted⟩
    rw [parse, fieldIdsOf_of_ofValue read, read]
    simp only [Except.mapError, ok_bind, checked, noted]
    rfl

/-! ### Misshapen definitions -/

/-- A definition that can be read up to its version: no two fields have the same id, and it has
a document, an id and a name. -/
structure Opens (es : Record) : Prop where
  ids : ∃ ids, fieldIdsOf (.mapping es) = .ok ids ∧ checkIds ids = .ok ()
  document : ∃ v, Record.get? es "document" = some v
  id : ∃ v, Record.get? es "id" = some v
  name : ∃ v, Record.get? es "name" = some v

/-- A definition that can be read up to its fields, which are the given items. -/
structure Lists (es : Record) (items : List Value) : Prop extends Opens es where
  version : ∃ n, ((Record.get? es "version").getD (.int 1)).toInt = .ok n
  typeTag : ∃ v, Record.get? es "typeTag" = some v
  fields : ((Record.get? es "fields").getD (.list [])).iterate = .ok items

/-- A definition that comes upon a fault that loading does not look out for. -/
inductive Misshapen : Value → Prop where
  /-- It is no mapping. -/
  | whole {v : Value} (other : v.isMapping = false) : Misshapen v
  /-- There is an item among its fields that is no mapping. -/
  | item {es : Record} {items : List Value} {item : Value}
      (listed : ((Record.get? es "fields").getD (.list [])).iterate = .ok items)
      (member : item ∈ items) (other : item.isMapping = false) : Misshapen (.mapping es)
  /-- Its version is infinite. -/
  | version {es : Record} {neg : Bool} (opens : Opens es)
      (infinite : Record.get? es "version" = some (.double (.infinite neg))) :
      Misshapen (.mapping es)
  /-- The first of its fields that cannot be read has a validation that is no mapping. -/
  | field {es field : Record} {before after : List Value}
      (lists : Lists es (before ++ .mapping field :: after))
      (read : ∀ item ∈ before, ∃ f, Field.ofValue item = .ok f)
      (misshapen : Field.Misshapen field) : Misshapen (.mapping es)
  /-- Its fields can be read, and its document is no mapping. -/
  | document {es : Record} {items : List Value} {fields : List Field} {v : Value}
      (lists : Lists es items) (read : items.mapM Field.ofValue = .ok fields)
      (document : Record.get? es "document" = some v) (other : v.isMapping = false) :
      Misshapen (.mapping es)

/-- Reasons against a definition that loading does not look out for. -/
def Error.IsStray (e : Error) : Prop := (Defect.definition e).isUnforeseen = true

theorem strays_fault_iff {α : Type} {x : Except Fault α} :
    FailsWith Error.IsStray (x.mapError .fault) ↔ FailsWith Fault.IsStray x :=
  failsWith_mapError

theorem strays_fieldIdsOf_iff (es : Record) :
    FailsWith Fault.IsStray (fieldIdsOf (.mapping es)) ↔
      ∃ items, ((Record.get? es "fields").getD (.list [])).iterate = .ok items ∧
        ∃ item ∈ items, item.isMapping = false := by
  rw [fieldIdsOf, Value.getD, ok_bind, failsWith_bind,
    or_iff_right (Value.not_strays_iterate _)]
  refine exists_congr fun items => and_congr_right fun _ => ?_
  rw [failsWith_mapM_iff_exists]
  · simp only [Value.get, Value.strays_getD_iff]
  · intro item f failed
    cases item <;> cases failed <;> decide

theorem not_strays_showIds (ids : List Value) : ¬ FailsWith Fault.IsStray (showIds ids) := by
  rw [showIds]
  split
  · exact (Value.longOnly_shown _).not_strays
  · rw [failsWith_error_iff]
    decide

theorem not_strays_checkIds (ids : List Value) : ¬ FailsWith Error.IsStray (checkIds ids) := by
  rw [checkIds]
  split
  · split
    · exact not_failsWith_ok _
    · rw [failsWith_bind, strays_fault_iff, not_or]
      refine ⟨not_strays_showIds _, ?_⟩
      rintro ⟨shown, -, strays⟩
      exact absurd (failsWith_throw_iff.1 strays) Bool.false_ne_true
  · exact mt failsWith_error_iff.1 Bool.false_ne_true

theorem not_strays_notes (t : Template) : ¬ FailsWith Fault.IsStray t.notes := by
  refine (LongOnly.mapM (fun f => ?_) _).not_strays
  exact (Value.longOnly_display _).bind fun _ => (Value.longOnly_display _).bind fun _ =>
    (Value.longOnly_display _).map _

theorem strays_version_iff (es : Record) :
    FailsWith Fault.IsStray ((Record.get? es "version").getD (.int 1)).toInt ↔
      ∃ neg, Record.get? es "version" = some (.double (.infinite neg)) := by
  rw [Value.strays_toInt_iff]
  cases Record.get? es "version" <;> simp

theorem strays_fields_iff (items : List Value) :
    FailsWith Fault.IsStray (items.mapM Field.ofValue) ↔
      ∃ before field after, items = before ++ .mapping field :: after ∧
        (∀ item ∈ before, ∃ f, Field.ofValue item = .ok f) ∧ Field.Misshapen field := by
  rw [failsWith_mapM]
  constructor
  · rintro ⟨before, item, after, rfl, read, strays⟩
    obtain ⟨field, rfl, misshapen⟩ := (Field.strays_ofValue_iff item).1 strays
    exact ⟨before, field, after, rfl, read, misshapen⟩
  · rintro ⟨before, field, after, rfl, read, misshapen⟩
    exact ⟨before, _, after, rfl, read, (Field.strays_ofValue_iff _).2 ⟨field, rfl, misshapen⟩⟩

/-- What is read after the ids of the fields goes astray at the version, in a field, or at the
document. -/
theorem strays_ofValue_iff (es : Record) : FailsWith Fault.IsStray (ofValue (.mapping es)) ↔
    ∃ document, Record.get? es "document" = some document ∧
      ∃ id, Record.get? es "id" = some id ∧ ∃ name, Record.get? es "name" = some name ∧
        ((∃ neg, Record.get? es "version" = some (.double (.infinite neg))) ∨
          ∃ n, ((Record.get? es "version").getD (.int 1)).toInt = .ok n ∧
            ∃ typeTag, Record.get? es "typeTag" = some typeTag ∧
              ∃ items, ((Record.get? es "fields").getD (.list [])).iterate = .ok items ∧
                (FailsWith Fault.IsStray (items.mapM Field.ofValue) ∨
                  ∃ fields, items.mapM Field.ofValue = .ok fields ∧
                    document.isMapping = false)) := by
  have once {p q : Prop} : p ∨ q ∧ p ↔ p := or_iff_left_of_imp And.right
  simp only [ofValue_mapping, failsWith_bind, Value.not_strays_require, Value.not_strays_iterate,
    Value.strays_getD_iff, Value.require_eq_ok_iff, strays_version_iff, not_failsWith_pure,
    false_or, and_false, exists_false, or_false, exists_and_right, once]

theorem Opens.strays_ofValue {es : Record} {neg : Bool} (opens : Opens es)
    (infinite : Record.get? es "version" = some (.double (.infinite neg))) :
    FailsWith Fault.IsStray (ofValue (.mapping es)) := by
  obtain ⟨-, ⟨document, given⟩, ⟨id, identified⟩, ⟨name, named⟩⟩ := opens
  exact (strays_ofValue_iff es).2
    ⟨document, given, id, identified, name, named, .inl ⟨neg, infinite⟩⟩

theorem Lists.strays_ofValue {es : Record} {items : List Value} {document : Value}
    (lists : Lists es items) (given : Record.get? es "document" = some document)
    (h : FailsWith Fault.IsStray (items.mapM Field.ofValue) ∨
      ∃ fields, items.mapM Field.ofValue = .ok fields ∧ document.isMapping = false) :
    FailsWith Fault.IsStray (ofValue (.mapping es)) := by
  obtain ⟨⟨-, -, ⟨id, identified⟩, ⟨name, named⟩⟩, ⟨n, version⟩, ⟨typeTag, tagged⟩, listed⟩ := lists
  exact (strays_ofValue_iff es).2 ⟨document, given, id, identified, name, named,
    .inr ⟨n, version, typeTag, tagged, items, listed, h⟩⟩

/-- A definition in which no two fields have the same id and that goes astray is misshapen. -/
theorem misshapen_of_strays {es : Record}
    (ids : ∃ ids, fieldIdsOf (.mapping es) = .ok ids ∧ checkIds ids = .ok ())
    (strays : FailsWith Fault.IsStray (ofValue (.mapping es))) : Misshapen (.mapping es) := by
  obtain ⟨document, given, id, identified, name, named, h⟩ := (strays_ofValue_iff es).1 strays
  have opens : Opens es := ⟨ids, ⟨document, given⟩, ⟨id, identified⟩, ⟨name, named⟩⟩
  rcases h with ⟨neg, infinite⟩ | ⟨n, version, typeTag, tagged, items, listed, h⟩
  · exact .version opens infinite
  · have lists : Lists es items := ⟨opens, ⟨n, version⟩, ⟨typeTag, tagged⟩, listed⟩
    rcases h with strays | ⟨fields, read, other⟩
    · obtain ⟨before, field, after, rfl, read, misshapen⟩ := (strays_fields_iff _).1 strays
      exact .field lists read misshapen
    · exact .document lists read given other

/-- Reading a definition goes astray at the ids of its fields, or behind them. -/
theorem strays_parse_mapping_iff (es : Record) :
    FailsWith Error.IsStray (parse (.mapping es)) ↔
      FailsWith Fault.IsStray (fieldIdsOf (.mapping es)) ∨
        (∃ ids, fieldIdsOf (.mapping es) = .ok ids ∧ checkIds ids = .ok ()) ∧
          FailsWith Fault.IsStray (ofValue (.mapping es)) := by
  have checked (ids : List Value) : (∃ u, checkIds ids = .ok u) ↔ checkIds ids = .ok () :=
    Unique.exists_iff
  simp only [parse, failsWith_bind, strays_fault_iff, mapError_eq_ok, not_strays_checkIds,
    not_strays_notes, not_failsWith_pure, false_or, and_false, exists_false, or_false,
    exists_and_right, ← and_assoc, checked]

/-- The definitions that come upon a fault that loading does not look out for are the misshapen
ones. -/
theorem strays_parse_iff (v : Value) : FailsWith Error.IsStray (parse v) ↔ Misshapen v := by
  cases v with
  | mapping es =>
      rw [strays_parse_mapping_iff]
      constructor
      · rintro (early | ⟨ids, strays⟩)
        · obtain ⟨items, listed, item, member, other⟩ := (strays_fieldIdsOf_iff es).1 early
          exact .item listed member other
        · exact misshapen_of_strays ids strays
      · intro misshapen
        cases misshapen with
        | whole other => exact absurd other (by simp [Value.isMapping])
        | item listed member other =>
            exact .inl ((strays_fieldIdsOf_iff es).2 ⟨_, listed, _, member, other⟩)
        | version opens infinite => exact .inr ⟨opens.ids, opens.strays_ofValue infinite⟩
        | @field _ field before after lists read misshapen =>
            obtain ⟨document, given⟩ := lists.document
            have strays := (strays_fields_iff _).2 ⟨before, field, after, rfl, read, misshapen⟩
            exact .inr ⟨lists.ids, lists.strays_ofValue given (.inl strays)⟩
        | document lists read given other =>
            exact .inr ⟨lists.ids, lists.strays_ofValue given (.inr ⟨_, read, other⟩)⟩
  | _ => exact iff_of_true ⟨_, rfl, rfl⟩ (.whole rfl)

end Template

end MinuteBook
