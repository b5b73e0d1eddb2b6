import MinuteBook.Proofs.Printing
import MinuteBook.Proofs.Store.Every
import MinuteBook.Proofs.Value.Short

/-!
# Printing answers without long numbers

A document can always be printed if there is no whole number in the answers that is too long to be
written. The lemmas follow those about what printing can fail with; here an invariant of the store
is carried along, that its values are short, and items of a repeated block keep it.
-/

namespace MinuteBook

/-! ## Values -/

namespace Value

theorem succeeds_wholeText {n : Int} (h : n.natAbs < Text.wholeLimit) :
    Succeeds (wholeText n) := by
  rw [wholeText_of_lt h]
  exact .ok _

mutual

theorem Short.plain {v : Value} (short : v.Short) : Succeeds v.plain := by
  match v with
  | .null => exact .ok _
  | .text s => exact .ok _
  | .bool b => exact .ok _
  | .int n => exact succeeds_wholeText (short.toInt_lt rfl)
  | .double x => exact .ok _
  | .bytes b => exact .ok _
  | .date d => exact .ok _
  | .dateTime t => exact .ok _
  | .zoned t z => exact .ok _
  | .list vs =>
      rw [Value.plain]
      exact (ShortAll.plain short).map _
  | .tuple vs =>
      rw [Value.plain]
      exact (ShortAll.plain short).map _
  | .set vs => exact .ok _
  | .mapping es => exact .ok _

theorem ShortAll.plain {vs : List Value} (short : ShortAll vs) : Succeeds (plainAll vs) := by
  match vs with
  | [] =>
      rw [plainAll]
      exact .ok _
  | v :: vs =>
      obtain ⟨first, rest⟩ := short
      rw [plainAll]
      split
      · exact ShortAll.plain rest
      · exact (Short.plain first).bind fun _ _ => (ShortAll.plain rest).map _

end

theorem Short.inherited : Inherited Short where
  items {v vs} items short := by
    cases v with
    | list _ =>
        obtain rfl := Option.some.inj items
        exact shortAll_iff.1 short
    | tuple _ =>
        obtain rfl := Option.some.inj items
        exact shortAll_iff.1 short
    | _ => exact absurd items (by simp [items?])
  entries short := shortEntries_iff.1 short

end Value

/-! ## Stores -/

namespace Store

variable {s : Store} {path : String}

/-- A store whose answers are short. The description of the template may hold what it will: no
path leads into it. -/
def Short (s : Store) : Prop := Value.ShortEntries s.values

theorem short_iff : s.Short ↔ s.Every Value.Short := Value.shortEntries_iff

theorem Short.set (short : s.Short) (key : String) {v : Value} (h : v.Short) :
    (s.set key v).Short :=
  short_iff.2 ((short_iff.1 short).set key h)

/-- What is found in a short store is short, or the description of the template. -/
theorem Short.lookup (short : s.Short) {v : Value} (h : s.lookup path = some v) :
    v.Short ∨ v = .mapping s.template :=
  (short_iff.1 short).lookup Value.Short.inherited h

theorem Short.plain_lookup (short : s.Short) {v : Value} (h : s.lookup path = some v) :
    Succeeds v.plain := by
  rcases short.lookup h with within | rfl
  · exact within.plain
  · exact .ok _

theorem Short.plain (short : s.Short) (path : String) : Succeeds (s.plain path) := by
  rw [Store.plain, lookupOrNull]
  cases found : s.lookup path with
  | none => exact .ok _
  | some v => exact short.plain_lookup found

/-- The items at a path are short. -/
theorem Short.itemsAt (short : s.Short) : ∀ item ∈ Markup.itemsAt s path, item.Short :=
  (short_iff.1 short).itemsAt Value.Short.inherited

end Store

/-! ## Templates -/

section Printing

variable {s : Store} (short : s.Short)

include short

theorem Operand.succeeds_render (o : Operand) : Succeeds (o.render s) := by
  cases o with
  | literal text => exact .ok _
  | path p =>
      rw [render]
      cases found : s.lookup p with
      | none => exact .ok _
      | some v => exact short.plain_lookup found

theorem Expression.succeeds_render (filters : Filters) (e : Expression) :
    Succeeds (e.render filters s) := by
  cases e with
  | var path filter =>
      rw [render]
      cases found : s.lookup path with
      | none => exact .ok _
      | some v => exact (short.plain_lookup found).map _
  | ternary lhs literal yes no =>
      apply (short.plain lhs).bind
      intro text _
      split
      · exact yes.succeeds_render short
      · exact no.succeeds_render short

theorem Test.succeeds_holds (t : Test) : Succeeds (t.holds s) := by
  unfold holds
  split
  · exact .ok _
  · cases t with
    | truthy path => exact .ok _
    | includes path needle =>
        simp only
        split <;> exact .ok _
    | equals path literal => exact (short.plain path).map _

theorem FileName.succeeds_fill (path : String) : Succeeds (fill s path) := by
  rw [fill]
  split
  · exact .ok _
  · rename_i found
    exact short.plain_lookup found
  · exact .ok _

theorem FileName.succeeds_expand (pattern : List Char) : Succeeds (expand s pattern) := by
  fun_induction expand s pattern with
  | case1 pattern body rest found ih =>
      exact (succeeds_fill short _).bind fun _ _ => ih.map _
  | case2 => exact .ok _
  | case3 c r _ ih => exact ih.map _

theorem FileName.succeeds_render (pattern : String) : Succeeds (render (.text pattern) s) :=
  (succeeds_expand short pattern.toList).map _

end Printing

namespace Markup

mutual

theorem Node.succeeds_render (filters : Filters) (n : Node) {s : Store} (short : s.Short) :
    Succeeds (n.render filters s) := by
  match n with
  | .text t => exact .ok _
  | .expression e =>
      rw [Node.render]
      exact (e.succeeds_render short filters).map _
  | .when test children =>
      rw [Node.render]
      apply (test.succeeds_holds short).bind
      intro holds _
      split
      · exact succeeds_renderAll filters children short
      · exact .ok _
  | .each path children =>
      rw [Node.render]
      have items : ∀ item ∈ itemsAt s path,
          Succeeds (renderAll filters children (s.set Store.itemKey item)) := fun item inside =>
        succeeds_renderAll filters children (short.set Store.itemKey (short.itemsAt item inside))
      exact (Faults.mapM items).map _
  | .blank _ => exact .ok _

theorem succeeds_renderAll (filters : Filters) (ns : List Node) {s : Store} (short : s.Short) :
    Succeeds (renderAll filters ns s) := by
  match ns with
  | [] =>
      rw [renderAll]
      exact .ok _
  | n :: ns =>
      rw [renderAll]
      exact (Node.succeeds_render filters n short).bind fun _ _ =>
        (succeeds_renderAll filters ns short).map _

end

theorem succeeds_renderValue (filters : Filters) (template : String) {s : Store}
    (short : s.Short) : Succeeds (renderValue filters (.text template) s) :=
  (succeeds_renderAll filters (parse template) short).map _

end Markup

end MinuteBook
