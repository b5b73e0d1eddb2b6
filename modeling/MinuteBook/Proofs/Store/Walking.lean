import MinuteBook.Proofs.Attempts
import MinuteBook.Store

/-!
# Where segments lead

The segments of a path are followed one entry after another. They lead to a value (`Leads`), or
they are lost (`Lost`): at a mapping that has no entry for the next one, or at a value that is no
mapping although a segment is left. The walk tells which of the two is the case
(`walk_eq_ok_iff`, `walk_eq_error_iff`). It goes on from where its first segments have led
(`walk_append`), and the path as it is written is only there for the error (`walk_about`).
-/

namespace MinuteBook.Store

variable {path segment : String} {segments rest : List String} {v w : Value} {es : Record}
  {e : Error}

/-! ## The steps of a walk -/

theorem walk_mapping (path segment : String) (rest : List String) (es : Record) :
    walk path (segment :: rest) (.mapping es) =
      match Record.get? es segment with
      | some w => walk path rest w
      | none => .error (.unset path) := rfl

theorem walk_of_not_mapping (other : v.isMapping = false) (path segment : String)
    (rest : List String) : walk path (segment :: rest) v = .error (.notMapping segment path) := by
  cases v with
  | mapping es => exact absurd other (by simp [Value.isMapping])
  | _ => rfl

theorem walk_append (path : String) (segments rest : List String) (v : Value) :
    walk path (segments ++ rest) v = walk path segments v >>= walk path rest := by
  induction segments generalizing v with
  | nil => rfl
  | cons segment segments ih =>
      cases v with
      | mapping es =>
          rw [List.cons_append, walk_mapping, walk_mapping]
          cases Record.get? es segment with
          | none => rfl
          | some w => exact ih w
      | _ => rfl

/-! ## Where it ends -/

/-- Segments lead from one value to another, one entry after another. -/
inductive Leads : Value → List String → Value → Prop
  | here (v : Value) : Leads v [] v
  | entry {es : Record} {segment : String} {rest : List String} {v w : Value}
      (found : Record.get? es segment = some v) (further : Leads v rest w) :
      Leads (.mapping es) (segment :: rest) w

/-- Segments lead to a mapping that does not have the next one, or to a value that is no mapping
although there is a next one. -/
inductive Lost (path : String) (v : Value) : List String → Error → Prop
  | unset {before after : List String} {segment : String} {es : Record}
      (reached : Leads v before (.mapping es)) (absent : Record.get? es segment = none) :
      Lost path v (before ++ segment :: after) (.unset path)
  | notMapping {before after : List String} {segment : String} {w : Value}
      (reached : Leads v before w) (other : w.isMapping = false) :
      Lost path v (before ++ segment :: after) (.notMapping segment path)

theorem Lost.entry (found : Record.get? es segment = some v) (h : Lost path v rest e) :
    Lost path (.mapping es) (segment :: rest) e := by
  cases h with
  | unset reached absent => exact Lost.unset (.entry found reached) absent
  | notMapping reached other => exact Lost.notMapping (.entry found reached) other

theorem Leads.walk_eq (h : Leads v segments w) : walk path segments v = .ok w := by
  induction h with
  | here v => rfl
  | entry found _ ih =>
      rw [walk_mapping, found]
      exact ih

theorem Lost.walk_eq (h : Lost path v segments e) : walk path segments v = .error e := by
  cases h with
  | unset reached absent => rw [walk_append, reached.walk_eq, ok_bind, walk_mapping, absent]
  | notMapping reached other =>
      rw [walk_append, reached.walk_eq, ok_bind, walk_of_not_mapping other]

/-- Every walk is one or the other. -/
theorem leads_or_lost (path : String) (v : Value) (segments : List String) :
    (∃ w, Leads v segments w) ∨ ∃ e, Lost path v segments e := by
  induction segments generalizing v with
  | nil => exact .inl ⟨v, .here v⟩
  | cons segment rest ih =>
      cases v with
      | mapping es =>
          cases found : Record.get? es segment with
          | none => exact .inr ⟨.unset path, Lost.unset (.here _) found⟩
          | some w =>
              rcases ih w with ⟨u, further⟩ | ⟨e, lost⟩
              · exact .inl ⟨u, .entry found further⟩
              · exact .inr ⟨e, .entry found lost⟩
      | _ => exact .inr ⟨.notMapping segment path, Lost.notMapping (.here _) rfl⟩

theorem walk_eq_ok_iff : walk path segments v = .ok w ↔ Leads v segments w := by
  refine ⟨fun reached => ?_, Leads.walk_eq⟩
  rcases leads_or_lost path v segments with ⟨u, leads⟩ | ⟨e, lost⟩
  · obtain rfl := Except.ok.inj (leads.walk_eq.symm.trans reached)
    exact leads
  · exact absurd (lost.walk_eq.symm.trans reached) (by simp)

theorem walk_eq_error_iff : walk path segments v = .error e ↔ Lost path v segments e := by
  refine ⟨fun failed => ?_, Lost.walk_eq⟩
  rcases leads_or_lost path v segments with ⟨u, leads⟩ | ⟨e', lost⟩
  · exact absurd (leads.walk_eq.symm.trans failed) (by simp)
  · obtain rfl := Except.error.inj (lost.walk_eq.symm.trans failed)
    exact lost

/-! ## Errors -/

/-- The same error, told of another path. -/
def Error.about (path : String) : Error → Error
  | .emptyPath => .emptyPath
  | .unset _ => .unset path
  | .notMapping segment _ => .notMapping segment path

theorem walk_about (path path' : String) (segments : List String) (v : Value) :
    walk path segments v = (walk path' segments v).mapError (Error.about path) := by
  induction segments generalizing v with
  | nil => rfl
  | cons segment rest ih =>
      cases v with
      | mapping es =>
          rw [walk_mapping, walk_mapping]
          cases Record.get? es segment with
          | none => rfl
          | some w => exact ih w
      | _ => rfl

end MinuteBook.Store
