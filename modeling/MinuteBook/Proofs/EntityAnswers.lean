import MinuteBook.Proofs.ReservedKeys

/-!
# Entities in answers

Where a form asks for an entity, its id may be given or the entity in full. Before anything else is
done with the answers, each id that is known gives way to its entity (`Entities.get?_expandAll`); so
answers that differ in nothing but this lead to stores in which every path reads the same, and from
there on to the same errors, the same document and the same number (`Desk.produce_of_entities`).
-/

namespace MinuteBook

open Store (AgreeOn)

/-! ## Keys -/

namespace Path

/-- A path of one segment: it has no dot in it and no blank at its ends. -/
structure IsSegment (path : String) : Prop where
  whole : '.' ∉ path.toList
  trimmed : Text.strip path.toList = path.toList

theorem IsSegment.segments_eq {path : String} (h : IsSegment path) : segments path = [path] := by
  rw [segments, h.trimmed, Text.split_of_not_mem h.whole, List.map_singleton, String.ofList_toList]

end Path

/-- A path of one segment reads a top-level key, unless the key is reserved or empty. -/
theorem Store.lookup_segment {key : String} (h : Path.IsSegment key) (filled : key ≠ "")
    (answer : key ≠ templateKey) (s : Store) : s.lookup key = Record.get? s.values key := by
  have front : Path.front key = key := by
    rw [Path.front, h.segments_eq]
    rfl
  rw [lookup, get_eq, front, if_neg filled, if_neg answer, h.segments_eq]
  cases Record.get? s.values key <;> rfl

/-! ## Ids and entities -/

namespace Entities

variable {es : Entities} {v w : Option Value} {f : Field} {fields : List Field} {s : Store}

/-- What an answer comes to: an entity, if the answer is the id of one. -/
def inFull (es : Entities) (v : Option Value) : Option Value :=
  match es.named? v with
  | some e => some e.toValue
  | none => v

/-- The first answer is the id of an entity, and the second is the entity in full. -/
def Expands (es : Entities) (v w : Option Value) : Prop :=
  ∃ id e, v = some (.text id) ∧ id ≠ "" ∧ es.find? id = some e ∧ w = some e.toValue

/-- An entity in full is not looked up once more. -/
@[simp] theorem inFull_inFull (es : Entities) (v : Option Value) :
    es.inFull (es.inFull v) = es.inFull v := by
  cases found : es.named? v with
  | none =>
      have given : es.inFull v = v := by
        rw [inFull, found]
      rw [given, given]
  | some e =>
      have given : es.inFull v = some e.toValue := by
        rw [inFull, found]
      rw [given]
      rfl

theorem Expands.inFull_eq (h : es.Expands v w) : es.inFull v = es.inFull w := by
  obtain ⟨id, e, rfl, filled, found, rfl⟩ := h
  have named : es.named? (some (.text id)) = some e := by
    rw [named?, if_neg filled, found]
  rw [inFull, named]
  rfl

end Entities

/-- The form asks for an entity under a key. -/
def Field.asksEntity (f : Field) (key : String) : Bool :=
  decide (f.type = .text "entity" ∧ f.id = .text key)

def Template.asksEntity (t : Template) (key : String) : Bool := t.fields.any (·.asksEntity key)

/-- Wherever a form asks for an entity, it does so under a key that is a path of one segment. -/
def Template.PlainEntities (t : Template) : Prop :=
  ∀ f ∈ t.fields, f.type = .text "entity" → ∃ key, f.id = .text key ∧ Path.IsSegment key

/-- Answers that differ only in how entities are given. -/
def Template.SameEntities (t : Template) (es : Entities) (a b : Record) : Prop :=
  ∀ key, Record.get? a key = Record.get? b key ∨ t.asksEntity key = true ∧
    (es.Expands (Record.get? a key) (Record.get? b key) ∨
      es.Expands (Record.get? b key) (Record.get? a key))

/-! ## The store -/

namespace Entities

variable {es : Entities} {f : Field} {fields : List Field}

/-- A field gets the entity for its id; no other answer that can be read changes. -/
theorem get?_expand (es : Entities)
    (plain : f.type = .text "entity" → ∃ key, f.id = .text key ∧ Path.IsSegment key) (s : Store) :
    ∃ after, es.expand s f = .ok after ∧ after.template = s.template ∧
      ∀ key, key ≠ "" → key ≠ Store.templateKey → Record.get? after.values key =
        if f.asksEntity key then es.inFull (Record.get? s.values key)
        else Record.get? s.values key := by
  by_cases asks : f.type = .text "entity"
  · obtain ⟨own, id, segment⟩ := plain asks
    have asksOwn (key : String) : f.asksEntity key = true ↔ key = own := by
      simp [Field.asksEntity, asks, id, eq_comm]
    have expanded : es.expand s f = .ok (match es.named? (s.lookup own) with
        | some e => s.set own e.toValue
        | none => s) := by
      have found : s.lookupAt (.text own) = .ok (s.lookup own) := rfl
      rw [expand, if_pos asks, id, found, ok_bind]
      cases es.named? (s.lookup own) <;> rfl
    refine ⟨_, expanded, by split <;> rfl, ?_⟩
    intro key filled answer
    simp only [asksOwn]
    by_cases same : key = own
    · subst same
      rw [if_pos rfl, Store.lookup_segment segment filled answer, inFull]
      cases found : es.named? (Record.get? s.values key) with
      | none => rfl
      | some e => exact Record.get?_set_self _ _ _
    · rw [if_neg same]
      split
      · exact Record.get?_set_of_ne _ (Ne.symm same) _
      · rfl
  · have other (key : String) : ¬ f.asksEntity key = true := by
      simp [Field.asksEntity, asks]
    refine ⟨s, ?_, rfl, ?_⟩
    · rw [expand, if_neg asks]
      rfl
    · intro key _ _
      rw [if_neg (other key)]

/-- In the store of a form every answer under a key for an entity is in full. -/
theorem get?_expandAll (es : Entities)
    (plain : ∀ f ∈ fields, f.type = .text "entity" →
      ∃ key, f.id = .text key ∧ Path.IsSegment key) (s : Store) :
    ∃ after, fields.foldlM es.expand s = .ok after ∧ after.template = s.template ∧
      ∀ key, key ≠ "" → key ≠ Store.templateKey → Record.get? after.values key =
        if fields.any (·.asksEntity key) then es.inFull (Record.get? s.values key)
        else Record.get? s.values key := by
  induction fields generalizing s with
  | nil => exact ⟨s, rfl, rfl, fun _ _ _ => rfl⟩
  | cons f fields ih =>
      rw [List.forall_mem_cons] at plain
      obtain ⟨next, expanded, template, first⟩ := es.get?_expand plain.1 s
      obtain ⟨after, done, kept, rest⟩ := ih plain.2 next
      refine ⟨after, ?_, kept.trans template, ?_⟩
      · rw [List.foldlM_cons, expanded, ok_bind, done]
      · intro key filled answer
        rw [rest key filled answer, first key filled answer, List.any_cons]
        cases f.asksEntity key <;> cases fields.any (·.asksEntity key) <;> simp

end Entities

variable {t : Template} {es : Entities} {a b : Record}

theorem Template.get?_store (plain : t.PlainEntities) (es : Entities) (answers : Record) :
    ∃ s, t.store (some es) answers = .ok s ∧ s.template = t.metadata ∧
      ∀ key, key ≠ "" → key ≠ Store.templateKey → Record.get? s.values key =
        if t.asksEntity key then es.inFull (Record.get? answers key)
        else Record.get? answers key :=
  es.get?_expandAll plain ⟨answers, t.metadata⟩

/-- The stores of answers that differ only in how entities are given agree everywhere. -/
theorem Template.store_of_sameEntities (plain : t.PlainEntities) (same : t.SameEntities es a b) :
    ∃ s u, t.store (some es) a = .ok s ∧ t.store (some es) b = .ok u ∧
      AgreeOn (fun _ => True) s u := by
  obtain ⟨s, stored, template, values⟩ := get?_store plain es a
  obtain ⟨u, stored', template', values'⟩ := get?_store plain es b
  refine ⟨s, u, stored, stored', Store.agreeOn_of_readable (template.trans template'.symm) ?_⟩
  intro key filled answer
  rw [values key filled answer, values' key filled answer]
  rcases same key with equal | ⟨asks, expands | expands⟩
  · rw [equal]
  · rw [if_pos asks, if_pos asks, expands.inFull_eq]
  · rw [if_pos asks, if_pos asks, expands.inFull_eq]

/-! ## Attempts -/

/-- Whether an entity is given by its id or in full makes no difference: the attempt ends alike,
with the same register and the same disk, and in the stores of both sets of answers every field is
visible or not, required or not, and at fault or not alike. -/
theorem Desk.produce_of_entities (sys : Numbering.System) (desk : Desk) (today : Date)
    (plain : t.PlainEntities) (same : t.SameEntities es a b) :
    desk.produce sys (some es) today t a = desk.produce sys (some es) today t b ∧
    ∃ s u, t.store (some es) a = .ok s ∧ t.store (some es) b = .ok u ∧
      ∀ f : Field, f.isVisible s = f.isVisible u ∧ f.isRequired s = f.isRequired u ∧
        f.errors s = f.errors u := by
  obtain ⟨s, u, stored, stored', agree⟩ := Template.store_of_sameEntities plain same
  constructor
  · apply produce_of_agree
    rw [stored, stored']
    exact .ok agree
  · refine ⟨s, u, stored, stored', fun f => ?_⟩
    have rules : ∀ v ∈ f.rulePaths, Path.Within (fun _ => True) v := fun _ _ _ _ => trivial
    exact ⟨Field.isVisible_congr agree rules, Field.isRequired_congr agree rules,
      Field.errors_congr agree rules (.inl fun _ _ => trivial)⟩

namespace Memo

/-- A field that asks for an entity. -/
def entityField (id : String) (validation : Option Validation) : Field :=
  { numberField with
    id := .text id
    label := .text id
    type := .text "entity"
    hidden := false
    validation
    computation := none }

/-- A memo about one entity and for another. -/
def betweenEntities : Template :=
  { template "\x7b\x7be.legalName\x7d\x7d" with
    fields := [{ numberField with
        computation := some ⟨.text numberFunction, [(.text "entityIdPath", .text "e.id")]⟩ },
      entityField "e" none, entityField "g" (some ⟨.text "e", .null, .null⟩)] }

def entity (id legalName : String) : Entity :=
  ⟨id, .text legalName, .null, .null, .null, .null, .null, .null, .null⟩

end Memo

/-- A memo about Alpha and for Beta is the same when one of them is given in full; a memo about
Alpha and for Alpha is refused, also when only one of them is given in full. -/
theorem Desk.memo_between_entities :
    let alpha := Memo.entity "A" "Alpha"
    let beta := Memo.entity "B" "Beta"
    let desk : Desk := ⟨⟨.empty, none⟩, .empty⟩
    let make (e g : Value) := desk.produce Numbering.System.willing
      (some ⟨1, "", [("A", alpha), ("B", beta)]⟩) Memo.newYear Memo.betweenEntities
      [(.text "e", e), (.text "g", g)]
    make "A" beta.toValue = (⟨⟨⟨[(⟨"A", 2025⟩, 1)]⟩, none⟩, .empty⟩,
        .ok (.produced ⟨"Alpha", "", "", some "A-2025-01-RES-M"⟩)) ∧
      make alpha.toValue "A" = (desk, .ok (.rejected [.text "g must differ from e"])) := by
  intro alpha beta desk make
  have plain : Memo.betweenEntities.PlainEntities := by
    have key (id : String) (segment : Path.IsSegment id) (v : Option Validation) :
        ∃ key, (Memo.entityField id v).id = .text key ∧ Path.IsSegment key := ⟨id, rfl, segment⟩
    simp only [Template.PlainEntities, Memo.betweenEntities, List.forall_mem_cons]
    refine ⟨fun asks => absurd asks (by decide), fun _ => key "e" ⟨by decide, by decide⟩ _,
      fun _ => key "g" ⟨by decide, by decide⟩ _, List.forall_mem_nil _⟩
  have byId : make "A" "B" = (⟨⟨⟨[(⟨"A", 2025⟩, 1)]⟩, none⟩, .empty⟩,
      .ok (.produced ⟨"Alpha", "", "", some "A-2025-01-RES-M"⟩)) := by
    decide +kernel
  have refused : make "A" "A" = (desk, .ok (.rejected [.text "g must differ from e"])) := by
    decide +kernel
  constructor
  · rw [← byId]
    refine (produce_of_entities _ _ _ plain fun key => ?_).1
    by_cases same : key = "g"
    · subst same
      exact .inr ⟨by decide, .inr ⟨"B", beta, rfl, by decide, rfl, rfl⟩⟩
    · simp [Record.get?_cons, Ne.symm same]
  · rw [← refused]
    refine (produce_of_entities _ _ _ plain fun key => ?_).1
    by_cases same : key = "e"
    · subst same
      exact .inr ⟨by decide, .inr ⟨"A", alpha, rfl, by decide, rfl, rfl⟩⟩
    · simp [Record.get?_cons, Ne.symm same]

end MinuteBook
