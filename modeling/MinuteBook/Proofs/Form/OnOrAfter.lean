import Mathlib.Data.List.Chain
import MinuteBook.Proofs.Calendar.Order
import MinuteBook.Proofs.Expression.Grammar
import MinuteBook.Proofs.Form.Hidden

/-!
# Dates that must be on or after others

A rule of a form may ask that a date be on or after another. The dates are the first ten characters
of the answers, without blanks in front; what stands behind them makes no difference. So the rule
orders answers by the calendar, which is also the order of their texts, and where it is kept along
a chain of fields it is kept between any two of them (`Field.errors_of_order`).
-/

namespace MinuteBook

/-! ## Texts that begin with a date -/

/-- A text that begins with a date, perhaps behind blanks. -/
def Value.Dated (v : Value) (d : Date) : Prop :=
  ∃ blanks rest : String, Token.Gap blanks.toList ∧ v = .text (blanks ++ d.iso ++ rest)

theorem Date.not_blank_of_mem_isoChars {d : Date} {c : Char} (h : c ∈ d.isoChars) :
    Text.isBlank c = false := by
  rcases isDigit_or_dash_of_mem_isoChars h with digit | rfl
  · exact Text.not_isBlank_of_isDigit digit
  · rfl

namespace Value

variable {v : Value} {d : Date}

theorem strip_dated {blanks rest : String} (gap : Token.Gap blanks.toList) :
    Text.strip (blanks ++ d.iso ++ rest).toList =
      d.isoChars ++ Text.dropBlanksRight rest.toList := by
  have chars : (blanks ++ d.iso ++ rest).toList =
      blanks.toList ++ (d.isoChars ++ rest.toList) := by
    simp [Date.iso]
  have front : ∀ c, (d.isoChars ++ rest.toList).head? = some c → Text.isBlank c = false := by
    intro c first
    rw [List.head?_append, Option.or_eq_some_iff] at first
    rcases first with inside | ⟨none, -⟩
    · exact Date.not_blank_of_mem_isoChars (List.mem_of_mem_head? inside)
    · exact absurd (List.head?_eq_none_iff.1 none) d.isoChars_ne_nil
  rw [chars, Text.strip, Token.dropBlanks_gap_append gap, Text.dropBlanks_eq_self front,
    Text.dropBlanksRight_word_append fun _ => Date.not_blank_of_mem_isoChars]

/-- The date is read, whatever follows it. -/
theorem Dated.calendarDate?_eq (h : v.Dated d) : v.calendarDate? = some d := by
  obtain ⟨blanks, rest, gap, rfl⟩ := h
  rw [calendarDate?, strip_dated gap, List.take_left' d.length_isoChars, Date.ofIso?_isoChars]

theorem Dated.isFilledText (h : v.Dated d) : Field.isFilledText v = true := by
  obtain ⟨blanks, rest, gap, rfl⟩ := h
  rw [Field.isFilledText, isBlank, strip_dated gap]
  simp [text?, d.isoChars_ne_nil]

end Value

/-! ## The rule -/

namespace Field

variable {f g : Field} {r : Validation} {s : Store} {v w : Value} {d e : Date}

/-- A field that is shown, that may be left without an answer, and whose one rule is to be on or
after another. -/
structure Ordered (f : Field) (r : Validation) (s : Store) : Prop where
  visible : f.isVisible s = .ok true
  optional : f.isRequired s = .ok false
  rule : f.validation = some r
  single : r.notEqualField.isPresent = false
  order : r.gteField.isPresent = true

/-- The message of the rule. -/
def tooEarly (f : Field) (r : Validation) : Except Fault (List Value) := do
  return [← f.ruleMessage r " must be on/after " r.gteField]

theorem tooEarly_ne_nil (f : Field) (r : Validation) : f.tooEarly r ≠ .ok [] := by
  intro none
  obtain ⟨m, -, same⟩ := bind_eq_ok.1 none
  exact absurd same (by simp [pure, Except.pure])

theorem tooEarly_of_message (f : Field) (given : r.message.isPresent = true) :
    f.tooEarly r = .ok [r.message] := by
  rw [tooEarly, ruleMessage, if_pos given]
  rfl

/-- A rule without a message of its own names both fields. -/
theorem tooEarly_of_label {label path : String} (absent : r.message.isPresent = false)
    (named : f.label = .text label) (other : r.gteField = .text path) :
    f.tooEarly r = .ok [.text (label ++ " must be on/after " ++ path)] := by
  rw [tooEarly, ruleMessage, if_neg (by simp [absent]), named, other]
  rfl

/-- A field with the rule has the message of the rule or none. -/
theorem Ordered.errors_eq (h : f.Ordered r s) (own : answer s f.id = .ok v)
    (other : answer s r.gteField = .ok w) : f.errors s =
      if isFilledText v && isFilledText w && !isOnOrAfter v w then f.tooEarly r else .ok [] := by
  have missing : f.missingErrors v s = .ok [] := by
    rw [missingErrors, h.optional]
    rfl
  have different : f.differenceErrors r v s = .ok [] := by
    rw [differenceErrors, h.single]
    rfl
  have order : f.orderErrors r v s =
      if isFilledText v && isFilledText w && !isOnOrAfter v w then f.tooEarly r else .ok [] := by
    rw [orderErrors, if_pos h.order, other]
    rfl
  rw [errors, h.visible, ok_bind, if_pos rfl, own, ok_bind, missing, ok_bind, ruleErrors, h.rule]
  simp only [different, order, ok_bind]
  split
  · cases f.tooEarly r <;> rfl
  · rfl

/-- Of two texts that begin with dates the dates count. -/
theorem Ordered.errors_dated (h : f.Ordered r s) (own : answer s f.id = .ok v)
    (other : answer s r.gteField = .ok w) (date : v.Dated d) (date' : w.Dated e) :
    f.errors s = if d.before e then f.tooEarly r else .ok [] := by
  rw [h.errors_eq own other, date.isFilledText, date'.isFilledText, isOnOrAfter,
    date.calendarDate?_eq, date'.calendarDate?_eq]
  simp

/-- Of two texts that are not blank both must be dates. -/
theorem Ordered.errors_undated (h : f.Ordered r s) (own : answer s f.id = .ok v)
    (other : answer s r.gteField = .ok w) (filled : isFilledText v = true)
    (filled' : isFilledText w = true) (undated : v.calendarDate? = none ∨ w.calendarDate? = none) :
    f.errors s = f.tooEarly r := by
  have out : isOnOrAfter v w = false := by
    rw [isOnOrAfter]
    rcases undated with none | none
    · rw [none]
    · rw [none]
      split <;> trivial
  rw [h.errors_eq own other, filled, filled', out]
  rfl

/-- Nothing is compared with what is no text or blank. -/
theorem Ordered.errors_unfilled (h : f.Ordered r s) (own : answer s f.id = .ok v)
    (other : answer s r.gteField = .ok w)
    (unfilled : isFilledText v = false ∨ isFilledText w = false) : f.errors s = .ok [] := by
  rw [h.errors_eq own other]
  rcases unfilled with none | none <;> simp [none]

/-! ## Chains of fields -/

/-- The answer at a path begins with a date. -/
def AnsweredOn (s : Store) (path : Value) (d : Date) : Prop :=
  ∃ v, answer s path = .ok v ∧ v.Dated d

theorem AnsweredOn.unique {path : Value} (h : AnsweredOn s path d) (h' : AnsweredOn s path e) :
    d = e := by
  obtain ⟨v, at_path, date⟩ := h
  obtain ⟨w, at_path', date'⟩ := h'
  obtain rfl := Except.ok.inj (at_path.symm.trans at_path')
  exact Option.some.inj (date.calendarDate?_eq.symm.trans date'.calendarDate?_eq)

/-- One field is to be on or after another. -/
def Follows (s : Store) (f g : Field) : Prop := ∃ r, f.Ordered r s ∧ r.gteField = g.id

/-- The answers to two fields begin with dates, and the first is not before the second. -/
def Later (s : Store) (f g : Field) : Prop :=
  ∃ d e, AnsweredOn s f.id d ∧ AnsweredOn s g.id e ∧ d.before e = false

theorem Later.trans {h : Field} (first : Later s f g) (second : Later s g h) : Later s f h := by
  obtain ⟨d, e, date, middle, late⟩ := first
  obtain ⟨e', c, middle', date', late'⟩ := second
  obtain rfl := middle.unique middle'
  refine ⟨d, c, date, date', ?_⟩
  rw [Bool.eq_false_iff, Ne, Date.before_iff_dayNumber_lt] at late late' ⊢
  omega

instance : Trans (Later s) (Later s) (Later s) := ⟨Later.trans⟩

/-- Of two fields with dates the rule has no message exactly if the first is not before the
second. -/
theorem Follows.errors_eq_nil_iff (h : Follows s f g) (date : AnsweredOn s f.id d)
    (date' : AnsweredOn s g.id e) : f.errors s = .ok [] ↔ d.before e = false := by
  obtain ⟨r, ordered, target⟩ := h
  obtain ⟨v, own, dated⟩ := date
  obtain ⟨w, other, dated'⟩ := date'
  rw [← target] at other
  rw [ordered.errors_dated own other dated dated']
  cases d.before e with
  | false => simp
  | true => simp [f.tooEarly_ne_nil r]

/-- Where the rule is kept along a chain of fields with dates, each is later than all behind it. -/
theorem pairwise_later {fs : List Field} (dates : ∀ f ∈ fs, ∃ d, AnsweredOn s f.id d)
    (kept : fs.IsChain fun f g => Follows s f g ∧ f.errors s = .ok []) :
    fs.Pairwise (Later s) := by
  refine (kept.imp_of_mem_imp fun f g inside inside' next => ?_).pairwise
  obtain ⟨d, date⟩ := dates f inside
  obtain ⟨e, date'⟩ := dates g inside'
  exact ⟨d, e, date, date', (next.1.errors_eq_nil_iff date date').1 next.2⟩

/-! ## The order of dates -/

/-- The rule is the order of the calendar, which is the order of the texts of dates. Texts that
are no dates are never on or after others, what is no text or blank is not compared, and where the
rule is kept along a chain of dates it is kept between any two of them. -/
theorem errors_of_order (s : Store) :
    (∀ d e : Date, (d.before e = true ↔ d.dayNumber < e.dayNumber) ∧
      (d.before e = true ↔ d.iso < e.iso)) ∧
    (∀ (f : Field) (r : Validation), f.tooEarly r ≠ .ok [] ∧
      (r.message.isPresent = true → f.tooEarly r = .ok [r.message]) ∧
      ∀ label path, r.message.isPresent = false → f.label = .text label →
        r.gteField = .text path →
        f.tooEarly r = .ok [.text (label ++ " must be on/after " ++ path)]) ∧
    (∀ (f : Field) (r : Validation) (v w : Value), f.Ordered r s → answer s f.id = .ok v →
      answer s r.gteField = .ok w →
      (∀ d e, v.Dated d → w.Dated e → f.errors s = if d.before e then f.tooEarly r else .ok []) ∧
      (isFilledText v = true → isFilledText w = true →
        v.calendarDate? = none ∨ w.calendarDate? = none → f.errors s = f.tooEarly r) ∧
      (isFilledText v = false ∨ isFilledText w = false → f.errors s = .ok [])) ∧
    (∀ fs : List Field, (∀ f ∈ fs, ∃ d, AnsweredOn s f.id d) →
      (fs.IsChain fun f g => Follows s f g ∧ f.errors s = .ok []) →
      fs.Pairwise fun f g => ∀ h : Field, h.id = f.id → Follows s h g → h.errors s = .ok []) := by
  refine ⟨fun d e => ⟨d.before_iff_dayNumber_lt e, d.before_iff_iso_lt e⟩, ?_, ?_, ?_⟩
  · intro f r
    exact ⟨f.tooEarly_ne_nil r, tooEarly_of_message f, fun _ _ => tooEarly_of_label⟩
  · intro f r v w ordered own other
    exact ⟨fun _ _ => ordered.errors_dated own other, ordered.errors_undated own other,
      ordered.errors_unfilled own other⟩
  · intro fs dates kept
    refine (pairwise_later dates kept).imp fun {f g} later h same follows => ?_
    obtain ⟨d, e, date, date', late⟩ := later
    rw [← same] at date
    exact (follows.errors_eq_nil_iff date date').2 late

end Field

namespace Payment

/-- A date that is to be on or after another. -/
def dated (id other : String) : Field :=
  { field id with
    required := false
    validation := some ⟨.null, .text other, .text (id ++ " is too early.")⟩ }

theorem ordered_dated (id other : String) (filled : other ≠ "") (s : Store) :
    (dated id other).Ordered ⟨.null, .text other, .text (id ++ " is too early.")⟩ s where
  visible := rfl
  optional := rfl
  rule := rfl
  single := rfl
  order := bne_iff_ne.2 filled

/-- A payment that was agreed on a leap day, made the day after and booked at the end of the
year. -/
def dates : Store :=
  ⟨[("agreed", .text "2024-02-29"), ("made", .text " 2024-03-01T09:30"),
    ("booked", .text "2024-12-31 (late)"), ("cleared", .text "soon")], []⟩

theorem answeredOn_dates :
    (Field.AnsweredOn dates (.text "agreed") ⟨2024, 2, 29, by decide⟩ ∧
      Field.AnsweredOn dates (.text "made") ⟨2024, 3, 1, by decide⟩) ∧
      Field.AnsweredOn dates (.text "booked") ⟨2024, 12, 31, by decide⟩ :=
  ⟨⟨⟨.text "2024-02-29", by decide +kernel, "", "", Token.gap_nil, by decide +kernel⟩,
    ⟨.text " 2024-03-01T09:30", by decide +kernel, " ", "T09:30", Token.gap_space,
      by decide +kernel⟩⟩,
    ⟨.text "2024-12-31 (late)", by decide +kernel, "", " (late)", Token.gap_nil,
      by decide +kernel⟩⟩

end Payment

/-- For instance, of a payment that was booked after it was made, and made after it was agreed, the
booking may be asked to be on or after the agreement, but not the other way round. -/
theorem Field.errors_of_payment_dates :
    (Payment.dated "booked" "agreed").errors Payment.dates = .ok [] ∧
      (Payment.dated "agreed" "booked").errors Payment.dates =
        .ok [.text "agreed is too early."] ∧
      (Payment.dated "booked" "cleared").errors Payment.dates =
        .ok [.text "booked is too early."] ∧
      (Payment.dated "booked" "refunded").errors Payment.dates = .ok [] := by
  obtain ⟨⟨agreed, made⟩, booked⟩ := Payment.answeredOn_dates
  obtain ⟨-, messages, rule, chains⟩ := errors_of_order Payment.dates
  have follows (id : String) {other : Field} {target : String} (filled : target ≠ "")
      (same : other.id = .text target) : Follows Payment.dates (Payment.dated id target) other :=
    ⟨_, Payment.ordered_dated id target filled Payment.dates, same.symm⟩
  refine ⟨?_, ?_, ?_, ?_⟩
  · -- The rule is kept from the booking to the payment, and from there to the agreement.
    let fields := [Payment.dated "booked" "made", Payment.dated "made" "agreed",
      Payment.field "agreed"]
    have dates : ∀ f ∈ fields, ∃ d, AnsweredOn Payment.dates f.id d := by
      simp only [fields, List.forall_mem_cons]
      exact ⟨⟨_, booked⟩, ⟨_, made⟩, ⟨_, agreed⟩, List.forall_mem_nil _⟩
    have kept : fields.IsChain fun f g =>
        Follows Payment.dates f g ∧ f.errors Payment.dates = .ok [] :=
      .cons_cons ⟨follows "booked" (by decide) rfl, by decide +kernel⟩
        (.cons_cons ⟨follows "made" (by decide) rfl, by decide +kernel⟩ (.singleton _))
    have first := (List.pairwise_cons.1 (chains fields dates kept)).1
    exact first (Payment.field "agreed") (by simp) (Payment.dated "booked" "agreed") rfl
      (follows "booked" (by decide) rfl)
  · obtain ⟨v, own, date⟩ := agreed
    obtain ⟨w, other, date'⟩ := booked
    obtain ⟨dated, -, -⟩ := rule _ _ v w
      (Payment.ordered_dated "agreed" "booked" (by decide) _) own other
    rw [dated _ _ date date', (messages _ _).2.1 (by decide)]
    decide +kernel
  · obtain ⟨v, own, date⟩ := booked
    obtain ⟨-, undated, -⟩ := rule _ _ v (.text "soon")
      (Payment.ordered_dated "booked" "cleared" (by decide) _) own (by decide +kernel)
    rw [undated date.isFilledText (by decide +kernel) (.inr (by decide +kernel)),
      (messages _ _).2.1 (by decide)]
    rfl
  · obtain ⟨v, own, -⟩ := booked
    obtain ⟨-, -, unfilled⟩ := rule _ _ v .null
      (Payment.ordered_dated "booked" "refunded" (by decide) _) own (by decide +kernel)
    exact unfilled (.inr (by decide +kernel))

end MinuteBook
