import MinuteBook.Proofs.Store.Agreement

/-!
# Answers to hidden fields

A field that is not shown is never at fault, and its answer is looked at for the sake of its own
rules only. So if no path of a form begins with a key but the id of a field that is not shown, it
makes no difference to the messages about the form what stands under that key, or whether anything
does (`Template.errors_of_hidden`). Both ways to change the answer are cases of one statement about
two stores that differ under one key (`Template.errors_congr_of_hidden`).
-/

namespace MinuteBook

variable {s u : Store} {key : String}

/-! ## Taking an answer away -/

/-- The entries that do not stand under a text. -/
def Record.erase (r : Record) (key : String) : Record := r.filter fun e => e.1 ≠ .text key

theorem Record.erase_cons (k v : Value) (r : Record) (key : String) :
    erase ((k, v) :: r) key = if k = .text key then erase r key else (k, v) :: erase r key := by
  simp [erase, List.filter_cons]

theorem Record.get?_erase (r : Record) (key key' : String) :
    get? (erase r key) key' = if key' = key then none else get? r key' := by
  induction r with
  | nil => simp [erase]
  | cons e r ih =>
      obtain ⟨k, v⟩ := e
      rw [erase_cons, get?_cons]
      by_cases same : k = .text key
      · subst same
        rw [if_pos rfl, ih]
        by_cases h : key' = key
        · simp [h]
        · simp [h, Ne.symm h]
      · rw [if_neg same, get?_cons, ih]
        by_cases h : key' = key
        · simp [h, same]
        · simp [h]

/-- The store without the answer under a key. -/
def Store.erase (s : Store) (key : String) : Store := { s with values := Record.erase s.values key }

/-! ## Paths beside a key -/

/-- A value that is no path beginning with the key. -/
def Path.Beside (key : String) (v : Value) : Prop := ∀ path, v = .text path → front path ≠ key

/-- A value that is no text is the empty path at most, which reads no answer. -/
theorem Path.Beside.within {v : Value} (h : Beside key v) :
    Within (fun path => front path = "" ∨ front path ≠ key) v := by
  intro path spells
  obtain rfl | rfl := eq_text_or_empty_of_ofValue spells
  · exact .inr (h _ rfl)
  · exact .inl rfl

theorem Path.beside_text_iff {path : String} : Beside key (.text path) ↔ front path ≠ key := by
  simp [Beside]

/-! ## Two stores -/

/-- A field that is not shown has no message. -/
theorem Field.errors_hidden {f : Field} (hidden : f.isVisible s = .ok false) :
    f.errors s = .ok [] := by
  rw [errors, hidden]
  rfl

/-- The messages about a form are the same for two stores that differ under one key, if the rules
have no path that begins with it and only fields that are not shown have such an id. -/
theorem Template.errors_congr_of_hidden {t : Template} (same : s.template = u.template)
    (values : ∀ k, k ≠ key → Record.get? s.values k = Record.get? u.values k)
    (rules : ∀ f ∈ t.fields, ∀ v ∈ f.rulePaths, Path.Beside key v)
    (ids : ∀ f ∈ t.fields, f.isVisible s = .ok false ∨ Path.Beside key f.id) :
    t.errors s = t.errors u := by
  have agree : Store.AgreeOn (fun path => Path.front path = "" ∨ Path.front path ≠ key) s u :=
    Store.agreeOn_of_front same fun path inside filled _ => values _ (inside.resolve_left filled)
  have each : ∀ f ∈ t.fields, f.errors s = f.errors u := by
    intro f member
    have within : ∀ v ∈ f.rulePaths, Path.Within _ v := fun v rule => (rules f member v rule).within
    rcases ids f member with hidden | beside
    · have hidden' : f.isVisible u = .ok false := (f.isVisible_congr agree within) ▸ hidden
      rw [Field.errors_hidden hidden, Field.errors_hidden hidden']
    · exact Field.errors_congr agree within (.inl beside.within)
  exact errors_congr_of_fields each

/-! ## The answer to a hidden field -/

/-- Whatever is answered to a field that is not shown, and whether anything is, the messages about
the form are the same, if nothing else in the form has a path that begins with the key. -/
theorem Template.errors_of_hidden {t : Template} {f : Field} (s : Store) (key : String)
    (hidden : f.isVisible s = .ok false)
    (rules : ∀ g ∈ t.fields, ∀ v ∈ g.rulePaths, Path.Beside key v)
    (others : ∀ g ∈ t.fields, g ≠ f → Path.Beside key g.id) :
    (∀ v, t.errors (s.set key v) = t.errors s) ∧ t.errors (s.erase key) = t.errors s := by
  have ids : ∀ g ∈ t.fields, g.isVisible s = .ok false ∨ Path.Beside key g.id := by
    intro g member
    by_cases same : g = f
    · exact .inl (same ▸ hidden)
    · exact .inr (others g member same)
  constructor
  · intro v
    refine (errors_congr_of_hidden (Store.set_template s key v).symm (fun k other => ?_) rules
      ids).symm
    rw [Store.set_values, Record.get?_set_of_ne _ (Ne.symm other)]
  · have same : s.template = (s.erase key).template := rfl
    refine (errors_congr_of_hidden same (fun k other => ?_) rules ids).symm
    rw [Store.erase, Record.get?_erase, if_neg other]

namespace Payment

/-- A field that must be answered. -/
def field (id : String) : Field where
  id := .text id
  label := .text id
  type := .text "text"
  required := true
  minItems := .null
  options := []
  placeholder := .null
  help := .null
  hidden := false
  visibleIf := none
  requiredIf := none
  validation := none
  computation := none

/-- The reference of a payment is asked for if it is made by wire. -/
def reference : Field := { field "reference" with visibleIf := some ⟨"method", "Wire", .null⟩ }

/-- A form about a payment. -/
def form : Template where
  id := "payment"
  name := "Payment"
  version := 1
  typeTag := "PAY"
  fileNamePattern := ""
  fields := [field "method", reference, field "amount"]
  title := ""
  body := ""

end Payment

/-- For instance, of a payment by check the amount is missing, whatever is given as the reference of
a wire. -/
theorem Template.errors_of_payment_by_check :
    let s : Store := ⟨[("method", .text "Check"), ("reference", .text "R-1")], []⟩
    let missing : Except Fault (List Value) := .ok [.text "amount is required."]
    Payment.form.errors s = missing ∧
      (∀ v, Payment.form.errors (s.set "reference" v) = missing) ∧
      Payment.form.errors (s.erase "reference") = missing := by
  intro s missing
  have given : Payment.form.errors s = missing := by decide +kernel
  have hidden : Payment.reference.isVisible s = .ok false := by decide +kernel
  have rules : ∀ g ∈ Payment.form.fields, ∀ v ∈ g.rulePaths, Path.Beside "reference" v := by
    have paths : ∀ g ∈ Payment.form.fields, ∀ v ∈ g.rulePaths, v = .text "method" := by
      decide +kernel
    intro g member v rule
    rw [paths g member v rule]
    exact Path.beside_text_iff.2 (by decide +kernel)
  have others : ∀ g ∈ Payment.form.fields, g ≠ Payment.reference →
      Path.Beside "reference" g.id := by
    simp only [Payment.form, List.forall_mem_cons]
    exact ⟨fun _ => Path.beside_text_iff.2 (by decide +kernel), fun other => absurd rfl other,
      fun _ => Path.beside_text_iff.2 (by decide +kernel), List.forall_mem_nil _⟩
  obtain ⟨changed, erased⟩ := errors_of_hidden s "reference" hidden rules others
  exact ⟨given, fun v => (changed v).trans given, erased.trans given⟩

end MinuteBook
