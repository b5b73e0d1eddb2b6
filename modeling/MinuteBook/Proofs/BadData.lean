import MinuteBook.Proofs.Memo
import MinuteBook.Proofs.Printing.Short
import MinuteBook.Proofs.SaveOutcome
import MinuteBook.Proofs.Store.Agreement

/-!
# Bad data

Whatever the answers and the entities are, an attempt at a document ends with an outcome or with a
register that could not be saved, if the template has text wherever it has room for a text or a path
(`Template.TextOnly`). There is one exception, a whole number that is too long to be written. It is
never in answers that come as JSON nor in a register that has been loaded; `Desk.fault_of_produce`
says where it must be.
-/

namespace MinuteBook

open Disk (Permitted)

/-- A value that is text, or as good as not given. -/
def Value.TextOrAbsent (v : Value) : Prop := v.isPresent = true → ∃ s, v = .text s

theorem Value.textOrAbsent_text (s : String) : (Value.text s).TextOrAbsent := fun _ => ⟨s, rfl⟩

theorem Value.TextOrAbsent.succeeds_display {v : Value} (h : v.TextOrAbsent) :
    Succeeds v.display := by
  by_cases present : v.isPresent = true
  · obtain ⟨text, rfl⟩ := h present
    exact .ok _
  · cases v with
    | null => exact .ok _
    | bool b => exact .ok _
    | double x => exact .ok _
    | text s => exact .ok _
    | bytes b => exact .ok _
    | date d => exact .ok _
    | dateTime t => exact .ok _
    | zoned t z => exact .ok _
    | int n =>
        obtain rfl : n = 0 := by simpa [isPresent] using present
        exact succeeds_wholeText (Text.lt_wholeLimit (k := 1) (by decide) (by decide))
    | list vs =>
        obtain rfl : vs = [] := by simpa [isPresent] using present
        exact .ok _
    | tuple vs =>
        obtain rfl : vs = [] := by simpa [isPresent] using present
        exact .ok _
    | set vs =>
        obtain rfl : vs = [] := by simpa [isPresent] using present
        exact .ok _
    | mapping es =>
        obtain rfl : es = [] := by simpa [isPresent] using present
        exact .ok _

/-- A template with a text, or nothing, wherever it has room for a text or a path. -/
structure Template.TextOnly (t : Template) : Prop where
  ids : ∀ f ∈ t.fields, f.id.TextOrAbsent
  rules : ∀ f ∈ t.fields, ∀ v ∈ f.rulePaths, v.TextOrAbsent
  args : ∀ f ∈ t.fields, ∀ c, f.computation = some c → ∀ v ∈ c.args.map Prod.snd, v.TextOrAbsent
  title : t.title.TextOrAbsent
  body : t.body.TextOrAbsent
  fileName : t.fileNamePattern.TextOrAbsent

variable {s : Store} {f : Field} {t : Template} {entities : Option Entities} {today : Date}
  {answers : Record}

/-! ## Rules -/

theorem Value.TextOrAbsent.succeeds_path {v : Value} (h : v.TextOrAbsent) :
    Succeeds (Path.ofValue v) := by
  by_cases present : v.isPresent = true
  · obtain ⟨path, rfl⟩ := h present
    exact .ok _
  · unfold Path.ofValue
    split
    · exact .ok _
    · rw [if_pos (by simpa [Value.isPresent] using present)]
      exact .ok _
    · rw [if_neg present]
      exact .ok _

theorem Value.TextOrAbsent.succeeds_lookupAt {v : Value} (h : v.TextOrAbsent) (s : Store) :
    Succeeds (s.lookupAt v) :=
  h.succeeds_path.map _

theorem Condition.succeeds_holds {c : Condition} (h : c.field.TextOrAbsent) (s : Store) :
    Succeeds (c.holds s) := by
  rw [holds]
  apply (h.succeeds_lookupAt s).bind
  intro found _
  split
  · exact .ok _
  · split
    · split <;> exact .ok _
    · split <;> exact .ok _

namespace Field

theorem succeeds_answer {v : Value} (h : v.TextOrAbsent) (s : Store) : Succeeds (answer s v) :=
  (h.succeeds_lookupAt s).map _

/-- Nothing fails in the rules of a field but the display of its label. -/
abbrev LabelFaults {α : Type} (f : Field) (x : Except Fault α) : Prop :=
  Faults (fun e => f.label.display = .error e) x

theorem faults_ruleMessage (r : Validation) (relation : String) {other : Value}
    (h : other.TextOrAbsent) (present : other.isPresent = true) :
    f.LabelFaults (f.ruleMessage r relation other) := by
  obtain ⟨path, rfl⟩ := h present
  rw [ruleMessage]
  split
  · exact .ok _
  · exact Faults.bind (fun e failed => failed) fun label _ => .ok _

theorem faults_differenceErrors {r : Validation} (h : r.notEqualField.TextOrAbsent) (v : Value) :
    f.LabelFaults (differenceErrors f r v s) := by
  rw [differenceErrors]
  split
  · rename_i present
    refine (succeeds_answer h s).next fun other _ => ?_
    split
    · exact (faults_ruleMessage r _ h present).map _
    · exact .ok _
  · exact .ok _

theorem faults_orderErrors {r : Validation} (h : r.gteField.TextOrAbsent) (v : Value) :
    f.LabelFaults (orderErrors f r v s) := by
  rw [orderErrors]
  split
  · rename_i present
    refine (succeeds_answer h s).next fun other _ => ?_
    split
    · exact (faults_ruleMessage r _ h present).map _
    · exact .ok _
  · exact .ok _

theorem succeeds_isVisible (rules : ∀ v ∈ f.rulePaths, v.TextOrAbsent) (s : Store) :
    Succeeds (f.isVisible s) := by
  rw [isVisible]
  split
  · exact .ok _
  · cases test : f.visibleIf with
    | none => exact .ok _
    | some c => exact Condition.succeeds_holds (rules _ (mem_rulePaths_of_visibleIf test)) s

theorem succeeds_isRequired (rules : ∀ v ∈ f.rulePaths, v.TextOrAbsent) (s : Store) :
    Succeeds (f.isRequired s) := by
  rw [isRequired]
  split
  · exact .ok _
  · cases test : f.requiredIf with
    | none => exact .ok _
    | some c => exact Condition.succeeds_holds (rules _ (mem_rulePaths_of_requiredIf test)) s

theorem faults_ruleErrors (rules : ∀ v ∈ f.rulePaths, v.TextOrAbsent) (v : Value) :
    f.LabelFaults (f.ruleErrors v s) := by
  rw [ruleErrors]
  cases rule : f.validation with
  | none => exact .ok _
  | some r =>
      obtain ⟨different, order⟩ := mem_rulePaths_of_validation rule
      exact (faults_differenceErrors (rules _ different) v).bind fun _ _ =>
        (faults_orderErrors (rules _ order) v).map _

theorem faults_missingErrors (rules : ∀ v ∈ f.rulePaths, v.TextOrAbsent) (v : Value) :
    f.LabelFaults (f.missingErrors v s) := by
  refine (succeeds_isRequired rules s).next fun required _ => ?_
  split
  · exact Faults.bind (fun e failed => failed) fun label _ => .ok _
  · exact .ok _

theorem faults_errors (id : f.id.TextOrAbsent) (rules : ∀ v ∈ f.rulePaths, v.TextOrAbsent) :
    f.LabelFaults (f.errors s) := by
  refine (succeeds_isVisible rules s).next fun visible _ => ?_
  split
  · exact (succeeds_answer id s).next fun v _ =>
      (faults_missingErrors rules v).bind fun _ _ => (faults_ruleErrors rules v).map _
  · exact .ok _

end Field

/-! ## The store -/

/-- The entities that may come into a document are short. -/
def ShortEntities (entities : Option Entities) : Prop :=
  ∀ es, entities = some es → ∀ id e, es.find? id = some e → e.toValue.Short

theorem Entities.succeeds_expand (es : Entities) (id : f.id.TextOrAbsent) (s : Store) :
    Succeeds (es.expand s f) := by
  rw [expand]
  split
  · apply (id.succeeds_lookupAt s).bind
    intro found _
    split <;> exact .ok _
  · exact .ok _

theorem Entities.find?_of_named? {es : Entities} {v : Option Value} {e : Entity}
    (h : es.named? v = some e) : ∃ id, es.find? id = some e := by
  unfold named? at h
  split at h
  · split at h
    · exact absurd h (by simp)
    · exact ⟨_, h⟩
  · exact absurd h (by simp)

theorem Entities.short_expand {es : Entities} {s' : Store}
    (entities : ∀ id e, es.find? id = some e → e.toValue.Short) (short : s.Short)
    (h : es.expand s f = .ok s') : s'.Short := by
  rw [expand] at h
  split at h
  · obtain ⟨found, -, h⟩ := bind_eq_ok.1 h
    split at h
    · rename_i named
      obtain rfl := Except.ok.inj h
      obtain ⟨id, found⟩ := find?_of_named? named
      exact short.set _ (entities id _ found)
    · obtain rfl := Except.ok.inj h
      exact short
  · obtain rfl := Except.ok.inj h
    exact short

namespace Template

theorem succeeds_store (textOnly : t.TextOnly) : Succeeds (t.store entities answers) := by
  unfold store
  cases entities with
  | none => exact .ok _
  | some es =>
      exact Faults.foldlM (fun f member s => es.succeeds_expand (textOnly.ids f member) s) _

theorem short_store (short : ShortEntities entities) (given : Value.ShortEntries answers)
    (h : t.store entities answers = .ok s) : s.Short := by
  unfold store at h
  cases entities with
  | none =>
      obtain rfl := Except.ok.inj h
      exact given
  | some es =>
      apply foldlM_invariant h given
      intro f _ s s' before
      exact Entities.short_expand (short es rfl) before

/-- Nothing fails in a note but the display of the id of the template. -/
abbrev IdFaults {α : Type} (t : Template) (x : Except Fault α) : Prop :=
  Faults (fun e => t.id.display = .error e) x

theorem faults_note (t : Template) (before after : String) : t.IdFaults (t.note before after) :=
  Faults.map (fun _ failed => failed) _

/-- What can be the fault of a form: its template has an id, or one of its fields has a label, that
cannot be displayed. -/
abbrev FormFaults {α : Type} (t : Template) (x : Except Fault α) : Prop :=
  Faults (fun e => t.id.display = .error e ∨ ∃ f ∈ t.fields, f.label.display = .error e) x

theorem faults_noteErrors (t : Template) (errors : List Value) :
    t.FormFaults (t.noteErrors errors) := by
  cases errors with
  | nil => exact .ok _
  | cons e es => exact ((t.faults_note _ _).map _).mono fun _ => .inl

theorem faults_review (textOnly : t.TextOnly) : t.FormFaults (t.review entities answers) := by
  refine (succeeds_store textOnly).next fun s _ => ?_
  have messages : t.FormFaults (t.messages s) := by
    refine Faults.map (Faults.mapM fun f member => ?_) _
    exact (Field.faults_errors (textOnly.ids f member) (textOnly.rules f member)).mono
      fun _ shown => .inr ⟨f, member, shown⟩
  exact (messages.bind fun errors _ => t.faults_noteErrors errors).map _

theorem faults_reject (t : Template) (errors : List Value) : t.IdFaults (t.reject errors) :=
  (t.faults_note _ _).map _

theorem short_review (short : ShortEntities entities) (given : Value.ShortEntries answers)
    {errors : List Value} (h : t.review entities answers = .ok (s, errors)) : s.Short := by
  obtain ⟨s', stored, h⟩ := bind_eq_ok.1 h
  obtain ⟨_, _, h⟩ := bind_eq_ok.1 h
  obtain ⟨rfl, -⟩ := Prod.mk.inj (Except.ok.inj h)
  exact short_store short given stored

theorem faults_seriesOf (textOnly : t.TextOnly) {args : Record}
    (asked : t.numberArgs? = some args) (s : Store) : t.IdFaults (t.seriesOf today args s) := by
  have each (key : String) {default : Value} (absent : default.TextOrAbsent) :
      ((Record.get? args key).getD default).TextOrAbsent := by
    cases found : Record.get? args key with
    | none => exact absent
    | some v =>
        obtain ⟨f, member, c, computed, rfl⟩ := exists_of_numberArgs? asked
        exact textOnly.args f member c computed v (Record.mem_values_of_get? found)
  have read (key : String) : Succeeds (argument args key s) :=
    (each key (Value.textOrAbsent_text "")).succeeds_lookupAt s
  have shown (key : String) : Succeeds (shownArgument args key) :=
    (each key fun present => absurd present (by simp [Value.isPresent])).succeeds_display
  have entity : t.IdFaults (t.entityOf args s) := by
    refine (read _).next fun found _ => ?_
    simp only
    split
    · exact (shown _).next fun _ _ => (t.faults_note _ _).map _
    · exact .ok _
  have day : t.IdFaults (t.dayOf today args s) := by
    refine (read _).next fun found _ => ?_
    split
    · exact .ok _
    · exact (shown _).next fun _ _ => (t.faults_note _ _).map _
  exact entity.bind fun _ _ => day.map _

/-- Printing fails as its texts do. -/
theorem faults_print (textOnly : t.TextOnly) {number : Option String} {sort : Fault → Prop}
    (texts : ∀ text, Faults sort (Markup.renderValue .builtin (.text text) (s.withNumber number)))
    (patterns : ∀ text, Faults sort (FileName.render (.text text) (s.withNumber number))) :
    Faults sort (t.print s number) := by
  have rendered {v : Value} (h : v.TextOrAbsent) :
      Faults sort (Markup.renderValue .builtin v (s.withNumber number)) := by
    unfold Markup.renderValue
    split
    · exact texts _
    · rename_i other
      rw [if_neg fun present => (h present).elim fun text same => other text same]
      exact .ok _
  have named {v : Value} (h : v.TextOrAbsent) :
      Faults sort (FileName.render v (s.withNumber number)) := by
    unfold FileName.render
    split
    · exact patterns _
    · rename_i other
      rw [if_neg fun present => (h present).elim fun text same => other text same]
      exact .ok _
  exact (rendered textOnly.title).bind fun _ _ => (rendered textOnly.body).bind fun _ _ =>
    (named textOnly.fileName).map _

theorem succeeds_print (textOnly : t.TextOnly) (short : s.Short) (number : Option String) :
    Succeeds (t.print s number) := by
  have short : (s.withNumber number).Short := by
    cases number with
    | none => exact short
    | some id => exact short.set _ (Value.short_text id)
  exact faults_print textOnly (fun text => Markup.succeeds_renderValue .builtin text short)
    fun text => FileName.succeeds_render short text

/-- A document that cannot be printed has a number that is too long in it, which comes from an
entity if the answers are short. -/
theorem longOnly_print (textOnly : t.TextOnly) (s : Store) (number : Option String) :
    LongOnly (t.print s number) :=
  faults_print textOnly (fun text => Markup.longOnly_renderValue .builtin text _)
    fun text => FileName.longOnly_render text _

end Template

/-! ## Numbers -/

namespace Numbering

variable {n : Numbering} {d d' : Disk} {sys : System}

/-- The id of a document that has no text is that of a series with a long year or number, or its
tag has no text. -/
theorem cause_of_idText {s : Series} {k : Int} {tag : Value} {e : Fault}
    (year : s.year.natAbs < Text.wholeLimit) (h : idText s k tag = .error e) :
    ¬ k.natAbs < Text.wholeLimit ∨ tag.display = .error e := by
  rcases bind_eq_error.1 h with failed | ⟨_, _, h⟩
  · exact (Value.succeeds_wholeText year e failed).elim
  · rcases bind_eq_error.1 h with failed | ⟨_, _, h⟩
    · apply Or.inl
      intro short
      rw [twoPlaces] at failed
      split at failed
      · exact absurd failed (by simp)
      · exact Value.succeeds_wholeText short e failed
    · rcases bind_eq_error.1 h with failed | ⟨_, _, done⟩
      · exact .inr failed
      · exact absurd done (by simp [pure, Except.pure])

/-- A register with a text is saved, or the disk is to blame. -/
theorem save_ne_fault {text : String} {f : Fault} (written : n.register.text = .ok text)
    (permitted : ∀ file, n.file = some file → Permitted file) :
    n.save sys none d ≠ (d', .error (.fault f)) := by
  intro h
  cases place : n.file with
  | none => simp [save, place] at h
  | some file =>
      rcases save_cases (Option.none_or.trans place) h with
        ⟨f, unwritten, -⟩ | ⟨text, outcome, -, wrote, failed⟩
      · exact absurd (written.symm.trans unwritten) (by simp)
      · cases outcome with
        | ok u => exact absurd failed (by simp [Except.mapError])
        | error e =>
            have blamed : .fault f = SaveError.ofDisk file e := Except.error.inj failed
            unfold SaveError.ofDisk at blamed
            split at blamed
            · exact writeFile_ne_forbiddenName (permitted file place) wrote rfl
            · exact absurd blamed (by simp)

end Numbering

namespace Desk

variable {sys : Numbering.System} {desk desk' : Desk} {e : Fault}

/-- The next number after one that is short is short, or it is the first that is not. -/
theorem cause_of_advanced {r : Register} {s : Series} (sound : r.Sound)
    (short : ∀ c ∈ r.counters, Register.Short c)
    (long : ¬ (r.last s + 1).natAbs < Text.wholeLimit) : r.last s + 1 = Text.wholeLimit := by
  have below := Register.short_last short s
  have nonneg := sound.last_nonneg s
  omega

/-- A number that cannot be saved ends with a fault only if that cannot be noted. -/
theorem id_of_unsaved {number : String} {cause : Numbering.SaveError}
    (ends : (t.unsaved number cause).fault? = some e) : t.id.display = .error e := by
  unfold Template.unsaved at ends
  split at ends
  · exact absurd ends (by simp [Failure.fault?])
  · rename_i failed
    obtain rfl := Option.some.inj ends
    exact t.faults_note _ _ _ failed

/-- If a register cannot be kept for a fault, it has no text, or it could not be noted that the disk
is to blame. -/
theorem cause_of_keep {s : Series} {previous : Int} {number : String} {failure : Failure}
    (permitted : ∀ file, desk.numbering.file = some file → Permitted file)
    (h : keep sys desk t s previous number = (desk', .error failure))
    (ends : failure.fault? = some e) :
    desk.numbering.register.text = .error e ∨ t.id.display = .error e := by
  unfold keep at h
  cases place : desk.numbering.file with
  | none =>
      simp only [place, Option.isNone_none, if_true] at h
      exact absurd (Prod.mk.inj h).2 (by simp)
  | some file =>
      simp only [place, Option.isNone_some, Bool.false_eq_true, if_false] at h
      split at h
      · exact absurd (Prod.mk.inj h).2 (by simp)
      · rename_i failed
        obtain rfl := Except.error.inj (Prod.mk.inj h).2
        obtain rfl := Option.some.inj ends
        rcases Numbering.save_cases (Option.none_or.trans place) failed with
          ⟨f, unwritten, -, same⟩ | ⟨text, outcome, written, -⟩
        · obtain rfl := Numbering.SaveError.fault.inj (Except.error.inj same)
          exact .inl unwritten
        · exact absurd failed (Numbering.save_ne_fault written permitted)
      · obtain rfl := Except.error.inj (Prod.mk.inj h).2
        exact .inr (id_of_unsaved ends)

/-- A number that cannot be given out for a fault is too long, or its tag is, or it could not be
noted that it cannot be saved. -/
theorem cause_of_issue {s : Series} {failure : Failure} (sound : desk.numbering.register.Sound)
    (short : ∀ c ∈ desk.numbering.register.counters, Register.Short c)
    (permitted : ∀ file, desk.numbering.file = some file → Permitted file)
    (year : s.year.natAbs < Text.wholeLimit)
    (h : desk.issue sys t s = (desk', .error failure)) (ends : failure.fault? = some e) :
    t.id.display = .error e ∨ e = .tooManyDigits ∧ (t.typeTag.display = .error .tooManyDigits ∨
      desk.numbering.register.last s + 1 = Text.wholeLimit) := by
  rw [issue, issue_eq] at h
  cases numbered : Numbering.idText s (desk.numbering.register.last s + 1) t.typeTag with
  | error f =>
      simp only [numbered] at h
      obtain rfl := Except.error.inj (Prod.mk.inj h).2
      obtain rfl := Option.some.inj ends
      obtain rfl := Numbering.longOnly_idText _ _ _ f numbered
      refine .inr ⟨rfl, ?_⟩
      rcases Numbering.cause_of_idText year numbered with long | shown
      · exact .inr (cause_of_advanced sound short long)
      · exact .inl shown
  | ok id =>
      simp only [numbered] at h
      generalize kept : keep sys _ t s _ id = after at h
      obtain ⟨desk₁, outcome⟩ := after
      cases outcome with
      | ok u => exact absurd (Prod.mk.inj h).2 (by simp [Except.map])
      | error failure' =>
          obtain rfl : failure' = failure := Except.error.inj (Prod.mk.inj h).2
          have permitted' (file : Location)
              (place : (Desk.mk (desk.advanced s) desk.disk).numbering.file = some file) :
              Permitted file := permitted file place
          refine (cause_of_keep permitted' kept ends).symm.imp_right fun unwritten => ?_
          refine ⟨Register.longOnly_text _ e unwritten, .inr ?_⟩
          apply cause_of_advanced sound short
          intro next
          obtain ⟨text, written⟩ := Register.exists_text
            (Register.short_put (c := (s, desk.numbering.register.last s + 1)) short ⟨year, next⟩)
          exact absurd (written.symm.trans unwritten) (by simp)

/-- A number is not given if the series cannot be told, or if no number of it can be given out. -/
theorem number_eq_error {s : Store} {failure : Failure}
    (h : desk.number sys today t s = (desk', .error failure)) :
    ∃ args, t.numberArgs? = some args ∧
      ((∃ f, t.seriesOf today args s = .error f ∧ failure = .fault f) ∨
        ∃ series, t.seriesOf today args s = .ok series ∧
          desk.issue sys t series = (desk', .error failure)) := by
  rw [number] at h
  cases asked : t.numberArgs? with
  | none =>
      simp only [asked] at h
      exact absurd (Prod.mk.inj h).2 (by simp)
  | some args =>
      refine ⟨args, rfl, ?_⟩
      cases found : t.seriesOf today args s with
      | error f =>
          simp only [asked, found] at h
          exact .inl ⟨f, rfl, (Except.error.inj (Prod.mk.inj h).2).symm⟩
      | ok series =>
          simp only [asked, found] at h
          refine .inr ⟨series, rfl, ?_⟩
          generalize desk.issue sys t series = after at h
          obtain ⟨desk₁, outcome⟩ := after
          obtain ⟨rfl, same⟩ := Prod.mk.inj h
          cases outcome with
          | ok id => exact absurd same (by simp [Except.map])
          | error e =>
              obtain rfl : e = failure := Except.error.inj same
              rfl

/-- An attempt that ends neither with an outcome nor with a register that could not be saved has met
a whole number that is too long to be written. It is in the id of the template, under which
everything is noted, in the label of a field, in the tag of the template, it is the next number of
the series, or it is in an entity. -/
theorem fault_of_produce {sys : Numbering.System} {desk desk' : Desk}
    {entities : Option Entities} {today : Date} {t : Template} {answers : Record}
    {failure : Failure} {f : Fault} {given : String} {disk : Disk} {file : Location}
    (textOnly : t.TextOnly) (json : Json.read given = some (.mapping answers))
    (loaded : Numbering.load disk file = .ok desk.numbering.register)
    (permitted : ∀ file, desk.numbering.file = some file → Permitted file)
    (failed : desk.produce sys entities today t answers = (desk', .error failure))
    (ends : failure.fault? = some f) :
    f = .tooManyDigits ∧
      (t.id.display = .error .tooManyDigits ∨
        (∃ field ∈ t.fields, field.label.display = .error .tooManyDigits) ∨
        (∃ s, t.series? entities today answers = some s ∧
          (t.typeTag.display = .error .tooManyDigits ∨
            desk.numbering.register.last s + 1 = Text.wholeLimit)) ∨
        ∃ es id e, entities = some es ∧ es.find? id = some e ∧ ¬ e.toValue.Short) := by
  have printed {s : Store} {number : Option String}
      (reviewed : t.review entities answers = .ok (s, []))
      (h : t.print s number = .error f) : f = .tooManyDigits ∧
        ∃ es id e, entities = some es ∧ es.find? id = some e ∧ ¬ e.toValue.Short := by
    refine ⟨Template.longOnly_print textOnly s number f h, ?_⟩
    by_contra none
    have short : ShortEntities entities := by
      intro es same id e found
      by_contra long
      exact none ⟨es, id, e, same, found, long⟩
    have answersShort : Value.ShortEntries answers := Json.short_of_read json
    exact Template.succeeds_print textOnly (Template.short_review short answersShort reviewed)
      number f h
  have noted (shown : t.id.display = .error f) : f = .tooManyDigits ∧
      t.id.display = .error .tooManyDigits := by
    obtain rfl := Value.longOnly_display _ f shown
    exact ⟨rfl, shown⟩
  rw [produce] at failed
  cases reviewed : t.review entities answers with
  | error e =>
      simp only [reviewed] at failed
      obtain rfl := Except.error.inj (Prod.mk.inj failed).2
      obtain rfl := Option.some.inj ends
      rcases Template.faults_review textOnly e reviewed with shown | ⟨field, member, shown⟩
      · exact (noted shown).imp_right .inl
      · obtain rfl := Value.longOnly_display _ e shown
        exact ⟨rfl, .inr (.inl ⟨field, member, shown⟩)⟩
  | ok checked =>
      obtain ⟨s, errors⟩ := checked
      cases errors with
      | cons message rest =>
          simp only [reviewed] at failed
          obtain ⟨e, unnoted, rfl⟩ := mapError_eq_error.1 (Prod.mk.inj failed).2
          obtain rfl := Option.some.inj ends
          exact (noted (t.faults_reject _ e unnoted)).imp_right .inl
      | nil =>
          simp only [reviewed] at failed
          generalize numbered : desk.number sys today t s = after at failed
          obtain ⟨desk₁, outcome⟩ := after
          cases outcome with
          | error failure' =>
              obtain rfl : failure' = failure := Except.error.inj (Prod.mk.inj failed).2
              obtain ⟨args, asked, ⟨e, unfound, rfl⟩ | ⟨series, found, refused⟩⟩ :=
                number_eq_error numbered
              · obtain rfl := Option.some.inj ends
                exact (noted (Template.faults_seriesOf textOnly asked s e unfound)).imp_right .inl
              · rcases cause_of_issue (Numbering.sound_of_load loaded)
                  (Numbering.short_of_load loaded) permitted (short_year found) refused ends with
                  shown | ⟨long, cause⟩
                · exact (noted shown).imp_right .inl
                · have taken : t.series? entities today answers = some series := by
                    simp [Template.series?, reviewed, asked, found, Except.toOption]
                  exact ⟨long, .inr (.inr (.inl ⟨series, taken, cause⟩))⟩
          | ok number =>
              simp only at failed
              obtain ⟨e, result, rfl⟩ := mapError_eq_error.1 (Prod.mk.inj failed).2
              obtain rfl := Option.some.inj ends
              cases finished : t.finish s number with
              | ok document => simp [finished, Except.map] at result
              | error e' =>
                  obtain rfl : e' = e := by simpa [finished, Except.map] using result
                  rcases bind_eq_error.1 finished with unprinted | ⟨document, -, rest⟩
                  · obtain ⟨long, entity⟩ := printed reviewed unprinted
                    exact ⟨long, .inr (.inr (.inr entity))⟩
                  · have unnoted := (t.faults_note _ _).map (fun _ => document) _ rest
                    exact (noted unnoted).imp_right .inl

/-- A memo that prints the name of an entity fails if that name is a number too long to be written,
and for no other reason. -/
theorem fault_of_long_name :
    let entity : Entity :=
      ⟨"E", .int Text.wholeLimit, .null, .null, .null, .null, .null, .null, .null⟩
    let field : Field := { Memo.numberField with
      id := .text Memo.entityKey, type := .text "entity", computation := none }
    let t : Template := { Memo.template "\x7b\x7be.legalName\x7d\x7d" with
      fields := [Memo.numberField, field] }
    let desk : Desk := ⟨⟨.empty, none⟩, .empty⟩
    (∃ after, desk.produce .willing (some ⟨1, "", [("E", entity)]⟩) Memo.newYear t
        (Memo.answers "E") = (after, .error (.fault .tooManyDigits))) ∧ ¬ entity.toValue.Short := by
  intro entity field t desk
  have failed : desk.produce .willing (some ⟨1, "", [("E", entity)]⟩) Memo.newYear t
      (Memo.answers "E") =
        (⟨⟨⟨[(⟨"", 2025⟩, 1)]⟩, none⟩, .empty⟩, .error (.fault .tooManyDigits)) := by
    decide +kernel
  have json : Json.read "\x7b\"e\": \"E\"\x7d" = some (.mapping (Memo.answers "E")) := by
    decide +kernel
  have textOnly : t.TextOnly := by
    refine ⟨?_, ?_, ?_, Value.textOrAbsent_text _, Value.textOrAbsent_text _,
      Value.textOrAbsent_text _⟩
    · simp only [t, field, List.forall_mem_cons]
      exact ⟨Value.textOrAbsent_text _, Value.textOrAbsent_text _, List.forall_mem_nil _⟩
    · have none : ∀ f ∈ t.fields, f.rulePaths = [] := by
        decide
      intro f member
      rw [none f member]
      exact List.forall_mem_nil _
    · simp only [t, field, List.forall_mem_cons]
      refine ⟨?_, by simp, List.forall_mem_nil _⟩
      rintro _ ⟨⟩
      exact List.forall_mem_singleton.2 (Value.textOrAbsent_text _)
  refine ⟨⟨_, failed⟩, ?_⟩
  obtain ⟨-, cause⟩ := fault_of_produce textOnly json
    (show Numbering.load .empty [] = .ok .empty from rfl) (by simp [desk]) failed rfl
  rcases cause with
    shown | ⟨f, member, shown⟩ | ⟨s, -, shown | long⟩ | ⟨es, id, e, same, found, long⟩
  · exact absurd shown (by simp [t, Memo.template, Value.display])
  · have labels : ∀ f ∈ t.fields, f.label.display = .ok numberKey := by
      decide
    exact absurd ((labels f member).symm.trans shown) (by simp)
  · exact absurd shown (by simp [t, Memo.template, Value.display])
  · have next : (1 : Int) = Text.wholeLimit := long
    have above := Text.lt_wholeLimit (n := 1) (k := 1) (by decide) (by decide)
    omega
  · obtain rfl := Option.some.inj same
    have member : (id, e) ∈ [("E", entity)] := Keyed.mem_of_lookup found
    obtain ⟨-, rfl⟩ := Prod.mk.inj (List.mem_singleton.1 member)
    exact long

end Desk

end MinuteBook
