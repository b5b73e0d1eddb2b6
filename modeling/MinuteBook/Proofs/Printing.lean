import MinuteBook.FileName
import MinuteBook.Markup.Render
import MinuteBook.Proofs.Attempts

/-!
# Printing fails on long numbers only

Where a template is text, there is one thing that its printing can fail with: a whole number in an
answer that is too long to be written. The values come first, then the nodes of a template, then
the placeholders of a file name.
-/

namespace MinuteBook

/-! ## Steps with few faults -/

/-- A step whose faults, if it fails, are of the given sort. -/
def Faults {α : Type} (sort : Fault → Prop) (x : Except Fault α) : Prop :=
  ∀ f, x = .error f → sort f

namespace Faults

variable {α β : Type} {sort : Fault → Prop}

theorem ok (a : α) : Faults sort (.ok a) := by
  intro f h
  exact absurd h (by simp)

theorem bind {x : Except Fault α} {k : α → Except Fault β} (first : Faults sort x)
    (next : ∀ a, x = .ok a → Faults sort (k a)) : Faults sort (x >>= k) := by
  intro f h
  rcases bind_eq_error.1 h with failed | ⟨a, done, failed⟩
  · exact first f failed
  · exact next a done f failed

theorem map {x : Except Fault α} (h : Faults sort x) (g : α → β) :
    Faults sort (do return g (← x)) :=
  h.bind fun a _ => ok (g a)

theorem mono {sort' : Fault → Prop} {x : Except Fault α} (h : Faults sort x)
    (weaker : ∀ f, sort f → sort' f) : Faults sort' x :=
  fun f failed => weaker f (h f failed)

theorem mapM {k : α → Except Fault β} {as : List α} (each : ∀ a ∈ as, Faults sort (k a)) :
    Faults sort (as.mapM k) := by
  induction as with
  | nil => exact ok []
  | cons a as ih =>
      rw [List.forall_mem_cons] at each
      rw [List.mapM_cons]
      exact each.1.bind fun b _ => (ih each.2).bind fun bs _ => ok (b :: bs)

theorem foldlM {k : α → β → Except Fault α} {bs : List β}
    (each : ∀ b ∈ bs, ∀ a, Faults sort (k a b)) (a : α) : Faults sort (bs.foldlM k a) := by
  induction bs generalizing a with
  | nil => exact ok a
  | cons b bs ih =>
      rw [List.forall_mem_cons] at each
      rw [List.foldlM_cons]
      exact (each.1 a).bind fun a' _ => ih each.2 a'

end Faults

/-- A step that does not fail. -/
abbrev Succeeds {α : Type} (x : Except Fault α) : Prop := Faults (fun _ => False) x

/-- After a step that does not fail, the faults are those of what follows. -/
theorem Succeeds.next {α β : Type} {sort : Fault → Prop} {x : Except Fault α}
    {k : α → Except Fault β} (h : Succeeds x) (next : ∀ a, x = .ok a → Faults sort (k a)) :
    Faults sort (x >>= k) :=
  Faults.bind (fun f failed => (h f failed).elim) next

/-- A step that fails, if it does, with a number that is too long. -/
def LongOnly {α : Type} (x : Except Fault α) : Prop := ∀ f, x = .error f → f = .tooManyDigits

namespace LongOnly

variable {α β : Type}

theorem ok (a : α) : LongOnly (.ok a) := Faults.ok a

theorem bind {x : Except Fault α} {k : α → Except Fault β} (first : LongOnly x)
    (next : ∀ a, LongOnly (k a)) : LongOnly (x >>= k) :=
  Faults.bind first fun a _ => next a

theorem map {x : Except Fault α} (h : LongOnly x) (g : α → β) :
    LongOnly (do return g (← x)) :=
  Faults.map h g

theorem mapM {k : α → Except Fault β} (each : ∀ a, LongOnly (k a)) (as : List α) :
    LongOnly (as.mapM k) :=
  Faults.mapM fun a _ => each a

end LongOnly

/-! ## Values -/

namespace Value

theorem longOnly_wholeText (n : Int) : LongOnly (wholeText n) := by
  unfold wholeText
  split
  · exact .ok _
  · rintro f ⟨⟩
    rfl

mutual

theorem longOnly_shown (v : Value) : LongOnly v.shown := by
  match v with
  | .null => exact .ok _
  | .bool b => exact .ok _
  | .int n => exact longOnly_wholeText n
  | .double x => exact .ok _
  | .text s => exact .ok _
  | .bytes b => exact .ok _
  | .date d => exact .ok _
  | .dateTime t => exact .ok _
  | .zoned t z => exact .ok _
  | .list vs =>
      rw [shown]
      exact (longOnly_shownAll vs).map _
  | .tuple [] =>
      rw [shown]
      · exact (longOnly_shownAll []).map _
      · simp
  | .tuple [v] =>
      rw [shown]
      exact (longOnly_shown v).map _
  | .tuple (v :: w :: vs) =>
      rw [shown]
      · exact (longOnly_shownAll (v :: w :: vs)).map _
      · simp
  | .set [] => exact .ok _
  | .set (v :: vs) =>
      rw [shown]
      · exact (longOnly_shownAll (v :: vs)).map _
      · simp
  | .mapping es =>
      rw [shown]
      exact (longOnly_shownEntries es).map _

theorem longOnly_shownAll (vs : List Value) : LongOnly (shownAll vs) := by
  match vs with
  | [] =>
      rw [shownAll]
      exact .ok _
  | v :: vs =>
      rw [shownAll]
      exact (longOnly_shown v).bind fun _ => (longOnly_shownAll vs).map _

theorem longOnly_shownEntries (es : Record) : LongOnly (shownEntries es) := by
  match es with
  | [] =>
      rw [shownEntries]
      exact .ok _
  | (k, v) :: es =>
      rw [shownEntries]
      exact (longOnly_shown k).bind fun _ => (longOnly_shown v).bind fun _ =>
        (longOnly_shownEntries es).map _

end

theorem longOnly_display (v : Value) : LongOnly v.display := by
  unfold display
  split
  · exact .ok _
  · exact .ok _
  · exact .ok _
  · exact .ok _
  · exact longOnly_shown v

mutual

theorem longOnly_plain (v : Value) : LongOnly v.plain := by
  match v with
  | .null => exact .ok _
  | .text s => exact .ok _
  | .bool b => exact .ok _
  | .int n => exact longOnly_wholeText n
  | .double x => exact .ok _
  | .bytes b => exact .ok _
  | .date d => exact .ok _
  | .dateTime t => exact .ok _
  | .zoned t z => exact .ok _
  | .list vs =>
      rw [plain]
      exact (longOnly_plainAll vs).map _
  | .tuple vs =>
      rw [plain]
      exact (longOnly_plainAll vs).map _
  | .set vs => exact .ok _
  | .mapping es => exact .ok _

theorem longOnly_plainAll (vs : List Value) : LongOnly (plainAll vs) := by
  match vs with
  | [] =>
      rw [plainAll]
      exact .ok _
  | v :: vs =>
      rw [plainAll]
      split
      · exact longOnly_plainAll vs
      · exact (longOnly_plain v).bind fun _ => (longOnly_plainAll vs).map _

end

end Value

/-! ## Templates -/

theorem Store.longOnly_plain (s : Store) (path : String) : LongOnly (s.plain path) :=
  Value.longOnly_plain _

theorem Operand.longOnly_render (s : Store) (o : Operand) : LongOnly (o.render s) := by
  cases o with
  | literal text => exact .ok _
  | path p =>
      unfold render
      simp only
      split
      · exact Value.longOnly_plain _
      · exact .ok _

theorem Expression.longOnly_render (filters : Filters) (s : Store) (e : Expression) :
    LongOnly (e.render filters s) := by
  cases e with
  | var path filter =>
      unfold render
      simp only
      split
      · exact (Value.longOnly_plain _).map _
      · exact .ok _
  | ternary lhs literal yes no =>
      apply (s.longOnly_plain lhs).bind
      intro text
      split
      · exact yes.longOnly_render s
      · exact no.longOnly_render s

theorem Test.longOnly_holds (s : Store) (t : Test) : LongOnly (t.holds s) := by
  unfold holds
  split
  · exact .ok _
  · cases t with
    | truthy path => exact .ok _
    | includes path needle =>
        simp only
        split <;> exact .ok _
    | equals path literal => exact (s.longOnly_plain path).map _

namespace Markup

mutual

theorem Node.longOnly_render (filters : Filters) (n : Node) (s : Store) :
    LongOnly (n.render filters s) := by
  match n with
  | .text t => exact .ok _
  | .expression e =>
      rw [Node.render]
      exact (e.longOnly_render filters s).map _
  | .when test children =>
      rw [Node.render]
      apply (test.longOnly_holds s).bind
      intro holds
      split
      · exact longOnly_renderAll filters children s
      · exact .ok _
  | .each path children =>
      rw [Node.render]
      exact (LongOnly.mapM (fun item => longOnly_renderAll filters children _) _).map _
  | .blank _ => exact .ok _

theorem longOnly_renderAll (filters : Filters) (ns : List Node) (s : Store) :
    LongOnly (renderAll filters ns s) := by
  match ns with
  | [] =>
      rw [renderAll]
      exact .ok _
  | n :: ns =>
      rw [renderAll]
      exact (Node.longOnly_render filters n s).bind fun _ =>
        (longOnly_renderAll filters ns s).map _

end

theorem longOnly_renderValue (filters : Filters) (template : String) (s : Store) :
    LongOnly (renderValue filters (.text template) s) :=
  (longOnly_renderAll filters (parse template) s).map _

end Markup

namespace FileName

theorem longOnly_fill (s : Store) (path : String) : LongOnly (fill s path) := by
  unfold fill
  split
  · exact .ok _
  · exact Value.longOnly_plain _
  · exact .ok _

theorem longOnly_expand (s : Store) (pattern : List Char) : LongOnly (expand s pattern) := by
  fun_induction expand s pattern with
  | case1 pattern body rest found ih =>
      exact (longOnly_fill s _).bind fun _ => ih.map _
  | case2 => exact .ok _
  | case3 c r _ ih => exact ih.map _

theorem longOnly_render (pattern : String) (s : Store) : LongOnly (render (.text pattern) s) :=
  (longOnly_expand s pattern.toList).map _

end FileName

end MinuteBook
