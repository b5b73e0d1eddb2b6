import MinuteBook.FileName
import MinuteBook.Form.Rules
import MinuteBook.Markup.Render
import MinuteBook.Proofs.Store.Walking

/-!
# Stores that agree

A path reads the one top-level key that its first segment names, and the key `$template` not at all.
So writing a key changes what is read at the paths with that first segment and at no others
(`get_set`). Two stores agree on some paths if the same is read there in both; writing the same key
in both keeps that (`AgreeOn.set`), and writing a key in one of them does so if the paths leave the
key alone (`AgreeOn.set_left`).

A rule finds the same in stores that agree on its paths (`Field.errors_congr`), and so does an
expression (`Expression.render_congr`); a file name is the same for stores that agree on all paths
(`FileName.render_congr`).
-/

namespace MinuteBook

namespace Path

/-- The first segment of a path. -/
def front (path : String) : String := (segments path).headD ""

/-- The first segment of the path that a value spells, if it spells one. -/
def front? (v : Value) : Option String := (ofValue v).toOption.map front

/-- Says whether a value, if it spells a path, spells one of those given. -/
def Within (paths : String → Prop) (v : Value) : Prop := ∀ path, ofValue v = .ok path → paths path

theorem segments_eq (path : String) : segments path = front path :: (segments path).tail := by
  rw [front]
  cases h : segments path with
  | nil => exact absurd (List.map_eq_nil_iff.1 h) (Text.split_ne_nil _ _)
  | cons first rest => rfl

theorem within_of_front?_ne {key : String} {v : Value} (h : front? v ≠ some key) :
    Within (front · ≠ key) v := by
  intro path spells same
  apply h
  rw [front?, spells, ← same]
  rfl

end Path

namespace Store

variable {s t : Store} {key path : String} {paths : String → Prop}

/-! ## Reading after writing -/

theorem get_eq (s : Store) (path : String) :
    s.get path =
      if Path.front path = "" then .error .emptyPath
      else if Path.front path = templateKey then .ok (.mapping s.template)
      else match Record.get? s.values (Path.front path) with
        | some v => walk path (Path.segments path).tail v
        | none => .error (.unset path) := by
  rw [get, Path.segments_eq]
  rfl

/-- The path as it is written is only there for the error. -/
theorem toOption_walk (path path' : String) (segments : List String) (v : Value) :
    (walk path segments v).toOption = (walk path' segments v).toOption := by
  rw [walk_about path path']
  cases walk path' segments v <;> rfl

/-- What is found depends on the segments of a path alone. -/
theorem lookup_congr_segments {path' : String} (same : Path.segments path = Path.segments path')
    (s : Store) : s.lookup path = s.lookup path' := by
  rw [lookup, lookup, get, get, same]
  split
  · rfl
  · split
    · rfl
    · split
      · rfl
      · exact toOption_walk path path' _ _

/-- After a key has been written, the paths that begin with it lead into the new value; everywhere
else the same is read as before. The empty key and `$template` begin no path into the answers. -/
theorem get_set (s : Store) (key : String) (v : Value) (path : String) :
    (s.set key v).get path =
      if Path.front path = key ∧ key ≠ "" ∧ key ≠ templateKey then
        walk path (Path.segments path).tail v
      else s.get path := by
  rw [get_eq, get_eq, set_template, set_values]
  by_cases empty : Path.front path = ""
  · rw [if_pos empty, if_pos empty, if_neg]
    rintro ⟨same, filled, -⟩
    exact filled (same.symm.trans empty)
  · rw [if_neg empty, if_neg empty]
    by_cases template : Path.front path = templateKey
    · rw [if_pos template, if_pos template, if_neg]
      rintro ⟨same, -, other⟩
      exact other (same.symm.trans template)
    · rw [if_neg template, if_neg template, Record.get?_set]
      by_cases same : Path.front path = key
      · rw [if_pos same, if_pos ⟨same, same ▸ empty, same ▸ template⟩]
      · rw [if_neg same, if_neg fun h => same h.1]

theorem lookup_set_of_ne (h : Path.front path ≠ key) (s : Store) (v : Value) :
    (s.set key v).lookup path = s.lookup path := by
  rw [lookup, get_set, if_neg fun found => h found.1, lookup]

/-! ## Agreement -/

/-- On the given paths the same is found in both stores. -/
def AgreeOn (paths : String → Prop) (s t : Store) : Prop :=
  ∀ path, paths path → s.lookup path = t.lookup path

/-- Two stores of the same template agree on paths if they hold the same under the keys with which
the paths begin. The entries under the empty key and under `$template` are read by no path. -/
theorem agreeOn_of_front (template : s.template = t.template)
    (values : ∀ path, paths path → Path.front path ≠ "" → Path.front path ≠ templateKey →
      Record.get? s.values (Path.front path) = Record.get? t.values (Path.front path)) :
    AgreeOn paths s t := by
  intro path inside
  rw [lookup, lookup, get_eq, get_eq, template]
  by_cases empty : Path.front path = ""
  · rw [if_pos empty, if_pos empty]
  · by_cases reserved : Path.front path = templateKey
    · rw [if_pos reserved, if_pos reserved]
    · rw [values path inside empty reserved]

/-- Two stores of the same template with the same answers, but for one key, agree on all paths that
do not begin with it. -/
theorem agreeOn_of_get? (template : s.template = t.template)
    (values : ∀ k, k ≠ key → Record.get? s.values k = Record.get? t.values k) :
    AgreeOn (Path.front · ≠ key) s t :=
  agreeOn_of_front template fun _ other _ _ => values _ other

theorem agreeOn_of_readable (template : s.template = t.template)
    (values : ∀ k, k ≠ "" → k ≠ templateKey → Record.get? s.values k = Record.get? t.values k) :
    AgreeOn (fun _ => True) s t :=
  agreeOn_of_front template fun _ _ filled other => values _ filled other

theorem agreeOn_of_get?_template (template : s.template = t.template)
    (values : ∀ k, k ≠ templateKey → Record.get? s.values k = Record.get? t.values k) :
    AgreeOn (fun _ => True) s t :=
  agreeOn_of_readable template fun k _ other => values k other

theorem AgreeOn.set (h : AgreeOn paths s t) (key : String) (v : Value) :
    AgreeOn paths (s.set key v) (t.set key v) := by
  intro path inside
  have before := h path inside
  simp only [lookup, get_set] at before ⊢
  split
  · rfl
  · exact before

theorem AgreeOn.set_left (h : AgreeOn paths s t)
    (aside : ∀ path, paths path → Path.front path ≠ key) (v : Value) :
    AgreeOn paths (s.set key v) t := by
  intro path inside
  rw [lookup_set_of_ne (aside path inside)]
  exact h path inside

theorem AgreeOn.symm (h : AgreeOn paths s t) : AgreeOn paths t s :=
  fun path inside => (h path inside).symm

/-- Stores that agree but for a key agree on all paths once the key has been written in both. -/
theorem AgreeOn.fill (h : AgreeOn (Path.front · ≠ key) s t) (filled : key ≠ "")
    (answer : key ≠ templateKey) (v : Value) :
    AgreeOn (fun _ => True) (s.set key v) (t.set key v) := by
  intro path _
  by_cases same : Path.front path = key
  · rw [lookup, lookup, get_set, get_set, if_pos ⟨same, filled, answer⟩,
      if_pos ⟨same, filled, answer⟩]
  · exact h.set key v path same

theorem AgreeOn.lookupAt (h : AgreeOn paths s t) {v : Value} (inside : Path.Within paths v) :
    s.lookupAt v = t.lookupAt v := by
  rw [Store.lookupAt, Store.lookupAt]
  cases spelled : Path.ofValue v with
  | error f => rfl
  | ok path => rw [ok_bind, ok_bind, h path (inside path spelled)]

end Store

/-! ## Paths in expressions -/

namespace Operand

/-- The paths that an operand names. -/
def paths : Operand → List String
  | .path p => [p]
  | .literal _ => []

end Operand

namespace Expression

/-- The paths that an expression names. -/
def paths : Expression → List String
  | .var path _ => [path]
  | .ternary lhs _ yes no => lhs :: (yes.paths ++ no.paths)

end Expression

open Store (AgreeOn)

variable {s t : Store} {paths : String → Prop}

/-! ## Rules -/

theorem Condition.holds_congr {c : Condition} (h : AgreeOn paths s t)
    (inside : Path.Within paths c.field) : c.holds s = c.holds t := by
  rw [holds, holds, h.lookupAt inside]

namespace Field

variable {f : Field}

/-- The paths in the rules of a field. -/
def rulePaths (f : Field) : List Value :=
  (f.visibleIf.toList ++ f.requiredIf.toList).map Condition.field ++
    f.validation.toList.flatMap fun r => [r.notEqualField, r.gteField]

theorem mem_rulePaths_of_visibleIf {c : Condition} (h : f.visibleIf = some c) :
    c.field ∈ f.rulePaths := by
  simp [rulePaths, h]

theorem mem_rulePaths_of_requiredIf {c : Condition} (h : f.requiredIf = some c) :
    c.field ∈ f.rulePaths := by
  simp [rulePaths, h]

theorem mem_rulePaths_of_validation {r : Validation} (h : f.validation = some r) :
    r.notEqualField ∈ f.rulePaths ∧ r.gteField ∈ f.rulePaths := by
  simp [rulePaths, h]

theorem isVisible_congr (h : AgreeOn paths s t)
    (rules : ∀ v ∈ f.rulePaths, Path.Within paths v) : f.isVisible s = f.isVisible t := by
  rw [isVisible, isVisible]
  cases test : f.visibleIf with
  | none => rfl
  | some c => simp only [Condition.holds_congr h (rules _ (mem_rulePaths_of_visibleIf test))]

theorem isRequired_congr (h : AgreeOn paths s t)
    (rules : ∀ v ∈ f.rulePaths, Path.Within paths v) : f.isRequired s = f.isRequired t := by
  rw [isRequired, isRequired]
  cases test : f.requiredIf with
  | none => rfl
  | some c => simp only [Condition.holds_congr h (rules _ (mem_rulePaths_of_requiredIf test))]

theorem answer_congr (h : AgreeOn paths s t) {v : Value} (inside : Path.Within paths v) :
    answer s v = answer t v := by
  rw [answer, answer, h.lookupAt inside]

theorem ruleErrors_congr (h : AgreeOn paths s t)
    (rules : ∀ v ∈ f.rulePaths, Path.Within paths v) (v : Value) :
    f.ruleErrors v s = f.ruleErrors v t := by
  rw [ruleErrors, ruleErrors]
  cases rule : f.validation with
  | none => rfl
  | some r =>
      obtain ⟨different, order⟩ := mem_rulePaths_of_validation rule
      simp only [differenceErrors, orderErrors, answer_congr h (rules _ different),
        answer_congr h (rules _ order)]

/-- A field that any answer suits: it needs none, and no rule compares its answer with another. -/
structure SuitsAny (f : Field) : Prop where
  optional : f.required = false
  unconditional : f.requiredIf = none
  incomparable : f.validation = none

theorem SuitsAny.missingErrors_eq (h : f.SuitsAny) (v : Value) (s : Store) :
    f.missingErrors v s = .ok [] := by
  rw [missingErrors, isRequired, h.optional, h.unconditional]
  rfl

theorem SuitsAny.ruleErrors_eq (h : f.SuitsAny) (v : Value) (s : Store) :
    f.ruleErrors v s = .ok [] := by
  rw [ruleErrors, h.incomparable]

/-- A field is judged alike in stores that agree on its paths; its own id counts among them unless
any answer suits it. -/
theorem errors_congr (h : AgreeOn paths s t) (rules : ∀ v ∈ f.rulePaths, Path.Within paths v)
    (own : Path.Within paths f.id ∨ f.SuitsAny ∧ ∃ key, f.id = .text key) :
    f.errors s = f.errors t := by
  rw [errors, errors, isVisible_congr h rules]
  rcases own with inside | ⟨suits, key, id⟩
  · simp only [answer_congr h inside, missingErrors, isRequired_congr h rules,
      ruleErrors_congr h rules]
  · have judged (store : Store) : (do
        let v ← answer store f.id
        return (← f.missingErrors v store) ++ (← f.ruleErrors v store)) =
          (.ok [] : Except Fault (List Value)) := by
      rw [id]
      show (do return (← f.missingErrors _ store) ++ (← f.ruleErrors _ store)) = _
      rw [suits.missingErrors_eq, suits.ruleErrors_eq]
      rfl
    rw [judged s, judged t]

end Field

/-- A form is judged alike if each of its fields is. -/
theorem Template.errors_congr_of_fields {t : Template} {s u : Store}
    (each : ∀ f ∈ t.fields, f.errors s = f.errors u) : t.errors s = t.errors u := by
  rw [errors, errors, messages, messages, mapM_congr each]

/-! ## Printing -/

section Printing

variable {path : String} (h : AgreeOn paths s t)

include h

theorem Store.lookupOrNull_congr (inside : paths path) :
    s.lookupOrNull path = t.lookupOrNull path := by
  rw [lookupOrNull, lookupOrNull, h path inside]

theorem Store.plain_congr (inside : paths path) : s.plain path = t.plain path := by
  rw [plain, plain, lookupOrNull_congr h inside]

theorem Operand.render_congr {o : Operand} (inside : ∀ p ∈ o.paths, paths p) :
    o.render s = o.render t := by
  cases o with
  | literal text => rfl
  | path p => rw [render, render, h p (inside p List.mem_cons_self)]

theorem Expression.render_congr (filters : Filters) {e : Expression}
    (inside : ∀ p ∈ e.paths, paths p) : e.render filters s = e.render filters t := by
  cases e with
  | var path filter => rw [render, render, h path (inside path List.mem_cons_self)]
  | ternary lhs literal yes no =>
      simp only [Expression.paths, List.forall_mem_cons, List.forall_mem_append] at inside
      obtain ⟨compared, left, right⟩ := inside
      rw [render, render, Store.plain_congr h compared, Operand.render_congr h left,
        Operand.render_congr h right]

theorem Test.holds_congr {test : Test} (inside : paths test.path) :
    test.holds s = test.holds t := by
  cases test with
  | truthy path =>
      have same : s.lookupOrNull path = t.lookupOrNull path := Store.lookupOrNull_congr h inside
      simp only [holds, same]
  | includes path needle =>
      have same : s.lookupOrNull path = t.lookupOrNull path := Store.lookupOrNull_congr h inside
      simp only [holds, same]
  | equals path literal =>
      have same : s.plain path = t.plain path := Store.plain_congr h inside
      simp only [holds, same]

theorem Markup.itemsAt_congr (inside : paths path) : itemsAt s path = itemsAt t path := by
  rw [itemsAt, itemsAt, Store.lookupOrNull_congr h inside]

end Printing

namespace FileName

variable (h : AgreeOn (fun _ => True) s t)

include h

theorem expand_congr (pattern : List Char) : expand s pattern = expand t pattern := by
  fun_induction expand s pattern with
  | case1 pattern body rest found ih =>
      rw [expand.eq_def t]
      split
      · rename_i found'
        obtain ⟨rfl, rfl⟩ := Prod.mk.inj (Option.some.inj (found.symm.trans found'))
        rw [fill, h _ trivial, ih]
        rfl
      · rename_i none
        exact absurd (found.symm.trans none) (by simp)
  | case2 none =>
      rw [expand.eq_def t]
      split
      · rename_i found
        exact absurd (none.symm.trans found) (by simp)
      · rfl
  | case3 c r none ih =>
      rw [expand.eq_def t]
      split
      · rename_i found
        exact absurd (none.symm.trans found) (by simp)
      · rw [ih]

theorem render_congr (pattern : Value) : render pattern s = render pattern t := by
  cases pattern with
  | text p => rw [render, render, expand_congr h]
  | _ => rfl

end FileName

end MinuteBook
