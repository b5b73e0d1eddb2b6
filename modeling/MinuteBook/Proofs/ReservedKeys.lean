import MinuteBook.Proofs.Markup.Named
import MinuteBook.Proofs.Memo

/-!
# Reserved keys

Two keys of the answers are not for whoever fills in a form: under `$template` the document finds
the description of its template, and under the key of the number its number. What is given under
`$template` is never read. What is given under the key of the number is read by a form that looks
there, and overwritten before anything is printed; so it changes nothing if the form has no path to
it. Both are cases of one statement about two attempts whose answers agree on the paths that the
form reads (`Desk.produce_congr`).
-/

namespace MinuteBook

open Store (AgreeOn)

variable {t : Template} {paths : String → Prop} {s u : Store} {entities : Option Entities}
  {today : Date}

/-! ## What a form reads -/

namespace Template

/-- What a form reads of the answers lies on the given paths. The answer to the field of the number
may lie elsewhere, if any answer suits that field. -/
structure Reads (t : Template) (paths : String → Prop) : Prop where
  ids : ∀ f ∈ t.fields, Path.Within paths f.id ∨
    f.SuitsAny ∧ f.id = .text numberKey ∧ ∀ path, paths path → Path.front path ≠ numberKey
  rules : ∀ f ∈ t.fields, ∀ v ∈ f.rulePaths, Path.Within paths v
  args : ∀ args, t.numberArgs? = some args →
    ∀ key, Path.Within paths ((Record.get? args key).getD (.text ""))

theorem reads_all (t : Template) : t.Reads fun _ => True where
  ids _ _ := .inl fun _ _ => trivial
  rules _ _ _ _ _ _ := trivial
  args _ _ _ _ _ := trivial

end Template

/-- A field changes the store under its own key, if at all. -/
theorem Entities.expand_of_id (es : Entities) {f : Field} {key : String} (id : f.id = .text key)
    (s : Store) : ∃ after, es.expand s f = .ok after ∧ (after = s ∨ ∃ v, after = s.set key v) := by
  rw [expand]
  split
  · rw [id]
    have found : s.lookupAt (.text key) = .ok (s.lookup key) := rfl
    rw [found, ok_bind]
    cases es.named? (s.lookup key) with
    | none => exact ⟨s, rfl, .inl rfl⟩
    | some e => exact ⟨_, rfl, .inr ⟨_, rfl⟩⟩
  · exact ⟨s, rfl, .inl rfl⟩

/-- An entity is put into both stores or into neither, unless its key is read by nobody. -/
theorem Entities.expand_inStep (es : Entities) {f : Field} (h : AgreeOn paths s u)
    (own : Path.Within paths f.id ∨
      ∃ key, f.id = .text key ∧ ∀ path, paths path → Path.front path ≠ key) :
    InStep (AgreeOn paths) (es.expand s f) (es.expand u f) := by
  rcases own with inside | ⟨key, id, aside⟩
  · rw [expand, expand]
    split
    · rw [h.lookupAt inside]
      cases u.lookupAt f.id with
      | error e => exact .error e
      | ok found =>
          rw [ok_bind, ok_bind]
          split
          · exact .ok (h.set _ _)
          · exact .ok h
    · exact .ok h
  · obtain ⟨s', made, left⟩ := es.expand_of_id id s
    obtain ⟨u', made', right⟩ := es.expand_of_id id u
    rw [made, made']
    apply InStep.ok
    have half : AgreeOn paths s' u := by
      rcases left with rfl | ⟨v, rfl⟩
      · exact h
      · exact h.set_left aside v
    rcases right with rfl | ⟨v, rfl⟩
    · exact half
    · exact (half.symm.set_left aside v).symm

namespace Template

variable {a b : Record}

theorem store_inStep (reads : t.Reads paths)
    (h : AgreeOn paths ⟨a, t.metadata⟩ ⟨b, t.metadata⟩) :
    InStep (AgreeOn paths) (t.store entities a) (t.store entities b) := by
  cases entities with
  | none => exact .ok h
  | some es =>
      apply InStep.foldlM h
      intro f member s u agree
      apply es.expand_inStep agree
      rcases reads.ids f member with inside | ⟨-, id, aside⟩
      · exact .inl inside
      · exact .inr ⟨numberKey, id, aside⟩

theorem errors_congr (reads : t.Reads paths) (h : AgreeOn paths s u) : t.errors s = t.errors u := by
  have each : ∀ f ∈ t.fields, f.errors s = f.errors u := by
    intro f member
    apply Field.errors_congr h (reads.rules f member)
    rcases reads.ids f member with inside | ⟨suits, id, -⟩
    · exact .inl inside
    · exact .inr ⟨suits, numberKey, id⟩
  exact errors_congr_of_fields each

/-- Of forms whose stores agree, both are found in order, or neither is. -/
theorem review_inStep (reads : t.Reads paths)
    (stores : InStep (AgreeOn paths) (t.store entities a) (t.store entities b)) :
    InStep (fun x y => AgreeOn paths x.1 y.1 ∧ x.2 = y.2)
      (t.review entities a) (t.review entities b) := by
  rw [review, review]
  generalize t.store entities a = left, t.store entities b = right at stores ⊢
  cases stores with
  | error e => exact .error e
  | @ok s u agree =>
      rw [ok_bind, ok_bind, errors_congr reads agree]
      cases t.errors u with
      | error e => exact .error e
      | ok errors => exact .ok ⟨agree, rfl⟩

theorem seriesOf_congr (reads : t.Reads paths) {args : Record} (asked : t.numberArgs? = some args)
    (h : AgreeOn paths s u) : t.seriesOf today args s = t.seriesOf today args u := by
  have each (key : String) : argument args key s = argument args key u :=
    h.lookupAt (reads.args args asked key)
  simp only [seriesOf, entityOf, dayOf, each]

theorem finish_congr (number : Option String)
    (h : AgreeOn (fun _ => True) (s.withNumber number) (u.withNumber number)) :
    t.finish s number = t.finish u number := by
  rw [finish, finish, print, print, Markup.renderValue_congr _ _ h, Markup.renderValue_congr _ _ h,
    FileName.render_congr h]

end Template

/-! ## Two attempts -/

/-- A template that asks for a number is given one, if any is given out at all. -/
theorem Desk.isSome_number {sys : Numbering.System} {desk after : Desk} {n : Option String}
    (h : desk.number sys today t s = (after, .ok n)) : n.isSome = t.numberArgs?.isSome := by
  rw [number] at h
  cases asked : t.numberArgs? with
  | none =>
      rw [asked] at h
      obtain rfl := Except.ok.inj (Prod.mk.inj h).2
      rfl
  | some args =>
      simp only [asked] at h
      cases found : t.seriesOf today args s with
      | error f =>
          simp only [found] at h
          exact absurd (Prod.mk.inj h).2 (by simp)
      | ok series =>
          simp only [found] at h
          cases issued : (desk.issue sys t series).2 with
          | error e => simp [issued, Except.map] at h
          | ok id =>
              have given := (Prod.mk.inj h).2
              rw [issued] at given
              obtain rfl := Except.ok.inj given
              rfl

/-- Attempts whose stores agree on all that the form reads, and on everything once the number is
written, end alike. -/
theorem Desk.produce_of_stores (sys : Numbering.System) (desk : Desk) {a b : Record}
    (reads : t.Reads paths)
    (stores : InStep (AgreeOn paths) (t.store entities a) (t.store entities b))
    (printed : ∀ s u, AgreeOn paths s u → ∀ number, number.isSome = t.numberArgs?.isSome →
      AgreeOn (fun _ => True) (s.withNumber number) (u.withNumber number)) :
    desk.produce sys entities today t a = desk.produce sys entities today t b := by
  rw [produce, produce]
  have reviewed : InStep (fun x y => AgreeOn paths x.1 y.1 ∧ x.2 = y.2)
      (t.review entities a) (t.review entities b) := Template.review_inStep reads stores
  generalize t.review entities a = left, t.review entities b = right at reviewed ⊢
  cases reviewed with
  | error e => rfl
  | @ok x y related =>
      obtain ⟨s, errors⟩ := x
      obtain ⟨u, errors'⟩ := y
      obtain ⟨agree, rfl⟩ := related
      cases errors with
      | cons e es => rfl
      | nil =>
          have numbered : desk.number sys today t s = desk.number sys today t u := by
            rw [number, number]
            cases asked : t.numberArgs? with
            | none => rfl
            | some args => simp only [Template.seriesOf_congr reads asked agree]
          simp only [numbered]
          generalize result : desk.number sys today t u = outcome
          cases outcome with
          | mk after given =>
              cases given with
              | error e => rfl
              | ok n => simp only [t.finish_congr n (printed s u agree n (isSome_number result))]

/-- If the stores agree on everything, the attempts end alike. -/
theorem Desk.produce_of_agree (sys : Numbering.System) (desk : Desk) {a b : Record}
    (stores : InStep (AgreeOn fun _ => True) (t.store entities a) (t.store entities b)) :
    desk.produce sys entities today t a = desk.produce sys entities today t b := by
  apply produce_of_stores sys desk t.reads_all stores
  intro s u agree number _
  cases number with
  | none => exact agree
  | some n => exact agree.set _ _

/-- It is enough that the answers agree on all that the form reads. -/
theorem Desk.produce_congr (sys : Numbering.System) (desk : Desk) {a b : Record}
    (reads : t.Reads paths) (h : AgreeOn paths ⟨a, t.metadata⟩ ⟨b, t.metadata⟩)
    (printed : ∀ s u, AgreeOn paths s u → ∀ number, number.isSome = t.numberArgs?.isSome →
      AgreeOn (fun _ => True) (s.withNumber number) (u.withNumber number)) :
    desk.produce sys entities today t a = desk.produce sys entities today t b :=
  produce_of_stores sys desk reads (Template.store_inStep reads h) printed

/-! ## The reserved keys -/

namespace Template

/-- The paths in a form: the ids of its fields but for that of the number, and the paths in its
rules and in the arguments of its computations. -/
def formPaths (t : Template) : List Value :=
  t.fieldIds.filter (fun id => decide (id ≠ .text numberKey)) ++ t.fields.flatMap Field.rulePaths ++
    t.fields.flatMap fun f => f.computation.toList.flatMap fun c => c.args.map Prod.snd

/-- A form that has no use for an answer under the key of the number: the number is computed, any
answer suits its field, and no path of the form begins with the key. -/
structure OwnsNumber (t : Template) : Prop where
  computed : t.numberArgs?.isSome
  suitsAny : ∀ f ∈ t.fields, f.id = .text numberKey → f.SuitsAny
  apart : ∀ v ∈ t.formPaths, Path.front? v ≠ some numberKey

theorem OwnsNumber.reads (h : t.OwnsNumber) : t.Reads (Path.front · ≠ numberKey) where
  ids := by
    intro f member
    by_cases own : f.id = .text numberKey
    · exact .inr ⟨h.suitsAny f member own, own, fun _ apart => apart⟩
    · apply Or.inl
      apply Path.within_of_front?_ne
      apply h.apart
      simp only [formPaths, fieldIds, List.mem_append, List.mem_filter, List.mem_map]
      exact .inl (.inl ⟨⟨f, member, rfl⟩, by simpa using own⟩)
  rules := by
    intro f member v rule
    apply Path.within_of_front?_ne
    apply h.apart
    simp only [formPaths, List.mem_append, List.mem_flatMap]
    exact .inl (.inr ⟨f, member, rule⟩)
  args := by
    intro args asked key
    apply Path.within_of_front?_ne
    cases found : Record.get? args key with
    | none => decide
    | some v =>
        obtain ⟨f, member, c, computed, rfl⟩ := exists_of_numberArgs? asked
        apply h.apart
        simp only [formPaths, List.mem_append, List.mem_flatMap]
        refine .inr ⟨f, member, c, ?_, ?_⟩
        · rw [computed]
          exact List.mem_singleton_self c
        · exact Record.mem_values_of_get? found

end Template

/-- What is given under `$template` changes nothing. What is given under the key of the number
changes nothing if the form has no use for it. -/
theorem Desk.produce_of_reserved (sys : Numbering.System) (desk : Desk)
    (entities : Option Entities) (today : Date) (t : Template) (a b : Record) :
    ((∀ key, key ≠ Store.templateKey → Record.get? a key = Record.get? b key) →
      desk.produce sys entities today t a = desk.produce sys entities today t b) ∧
    (t.OwnsNumber → (∀ key, key ≠ numberKey → Record.get? a key = Record.get? b key) →
      desk.produce sys entities today t a = desk.produce sys entities today t b) := by
  constructor
  · intro same
    have start : AgreeOn (fun _ => True) ⟨a, t.metadata⟩ ⟨b, t.metadata⟩ :=
      Store.agreeOn_of_get?_template rfl same
    apply produce_congr sys desk t.reads_all start
    intro s u agree number _
    cases number with
    | none => exact agree
    | some n => exact agree.set _ _
  · intro owns same
    have start : AgreeOn (Path.front · ≠ numberKey) ⟨a, t.metadata⟩ ⟨b, t.metadata⟩ :=
      Store.agreeOn_of_get? rfl same
    apply produce_congr sys desk owns.reads start
    intro s u agree number asked
    cases number with
    | none => exact absurd (asked.trans owns.computed) (by simp)
    | some n => exact agree.fill (by decide) (by decide) _

/-- Whoever fills in a memo can forge neither its tag nor its number. -/
theorem Desk.memo_unforged :
    let desk : Desk := ⟨⟨.empty, none⟩, .empty⟩
    let make (more : Record) := desk.produce Numbering.System.willing none Memo.newYear
      (Memo.template "") (Memo.answers "A" ++ more)
    let made : Desk × Except Failure Outcome :=
      (⟨⟨⟨[(⟨"A", 2025⟩, 1)]⟩, none⟩, .empty⟩,
        .ok (.produced ⟨"", "", "", some "A-2025-01-RES-M"⟩))
    make [(.text Store.templateKey, .mapping [(.text "typeTag", .text "X")])] = made ∧
      make [(.text numberKey, .text "A-2025-07-RES-M")] = made := by
  intro desk make made
  have plain : make [] = made := by
    decide +kernel
  have owns : (Memo.template "").OwnsNumber := by
    refine ⟨rfl, ?_, ?_⟩
    · intro f member _
      obtain rfl := List.mem_singleton.1 member
      exact ⟨rfl, rfl, rfl⟩
    · decide
  have added (key : String) (v : Value) (other : String) (apart : other ≠ key) :
      Record.get? (Memo.answers "A" ++ [(.text key, v)]) other =
        Record.get? (Memo.answers "A" ++ []) other := by
    simp [Memo.answers, Record.get?_cons, Ne.symm apart]
  constructor
  · rw [← plain]
    exact (produce_of_reserved _ _ _ _ _ _ _).1 (added _ _)
  · rw [← plain]
    exact (produce_of_reserved _ _ _ _ _ _ _).2 owns (added _ _)

end MinuteBook
