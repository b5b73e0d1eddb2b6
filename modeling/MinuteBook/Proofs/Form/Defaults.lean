import MinuteBook.Form.Defaults
import MinuteBook.Proofs.Form.Reading
import MinuteBook.Proofs.Value.Keys

/-!
# Priming a form

Priming goes through the fields one after another, but what it writes for a field depends on nothing
but the answer given to that field (`Field.prime_eq_ok_iff`), and no two fields have the same id. So
all fields are filled from the given answers (`Template.prime_eq_ok_iff`), in any order and once and
for all (`Template.prime_stable`). A list of signers is filled as long as it is empty; one that has
rows, but fewer than the field asks for, stays short (`Template.prime_signers`).
-/

namespace MinuteBook

/-- The answer under an id, null if there is none. -/
def Record.answerAt (answers : Record) (id : Value) : Value := (answers.find? id).getD .null

namespace Field

variable {today : Date} {answers answers' next : Record} {f g : Field} {e e' : Value × Value}

/-! ## One field -/

/-- Says whether a field is to be given an answer: a date without one, and a list of signers that
needs rows and has none. -/
def lacks (answers : Record) (f : Field) : Bool :=
  if f.isDate then answers.answerAt f.id = .null
  else f.isSigner && f.minItems.isPresent && !(answers.answerAt f.id).isPresent

/-- The answer that a field starts with. -/
def starter (today : Date) (f : Field) : Value :=
  if f.isDate then .text today.iso
  else .list (List.replicate ((rowCount f.minItems).toOption.getD 0) blankSigner)

/-- What priming writes for a field. -/
def start? (today : Date) (answers : Record) (f : Field) : Option (Value × Value) :=
  if f.lacks answers then some (f.id, f.starter today) else none

/-- What it takes to prime a field: an id that can be a key if its answer is asked for, and a number
of rows if rows are to be added. -/
structure CanStart (answers : Record) (f : Field) : Prop where
  key : f.isDate = true ∨ f.isSigner = true ∧ f.minItems.isPresent = true → f.id.isHashable = true
  rows : f.isSigner = true → f.lacks answers = true → ∃ n, rowCount f.minItems = .ok n

theorem isSigner_of_isDate (date : f.isDate = true) : f.isSigner = false := by
  rw [isDate, decide_eq_true_eq] at date
  rw [isSigner, date]
  decide

theorem isDate_of_isSigner (signer : f.isSigner = true) : f.isDate = false := by
  cases date : f.isDate with
  | false => rfl
  | true => exact absurd signer (by simp [isSigner_of_isDate date])

theorem lacks_of_isDate (date : f.isDate = true) :
    f.lacks answers = true ↔ answers.answerAt f.id = .null := by
  rw [lacks, if_pos date, decide_eq_true_eq]

theorem lacks_of_isSigner (signer : f.isSigner = true) : f.lacks answers = true ↔
    f.minItems.isPresent = true ∧ (answers.answerAt f.id).isPresent = false := by
  simp [lacks, isDate_of_isSigner signer, signer]

theorem lacks_congr (same : answers.answerAt f.id = answers'.answerAt f.id) :
    f.lacks answers = f.lacks answers' := by
  rw [lacks, lacks, same]

theorem sort_of_lacks (h : f.lacks answers = true) :
    f.isDate = true ∨ f.isSigner = true ∧ f.minItems.isPresent = true := by
  rw [lacks] at h
  split at h
  · rename_i date
    exact .inl date
  · simp only [Bool.and_eq_true] at h
    exact .inr h.1

theorem start?_congr (same : answers.answerAt f.id = answers'.answerAt f.id) :
    f.start? today answers = f.start? today answers' := by
  rw [start?, start?, lacks_congr same]

theorem start?_eq_some_iff :
    f.start? today answers = some e ↔ f.lacks answers = true ∧ e = (f.id, f.starter today) := by
  rw [start?, Option.ite_none_right_eq_some, Option.some.injEq, eq_comm (a := e)]

theorem canStart_congr (same : answers.answerAt f.id = answers'.answerAt f.id) :
    f.CanStart answers ↔ f.CanStart answers' := by
  have bare : f.lacks answers = f.lacks answers' := lacks_congr same
  exact ⟨fun can => ⟨can.key, fun signer lacks => can.rows signer (bare ▸ lacks)⟩,
    fun can => ⟨can.key, fun signer lacks => can.rows signer (bare ▸ lacks)⟩⟩

/-- Priming a field writes the entry that the field starts with. -/
theorem prime_eq_ok_iff : f.prime today answers = .ok next ↔
    f.CanStart answers ∧ next = answers.putAll (f.start? today answers).toList := by
  have asked : answers.ask f.id =
      if f.id.isHashable then .ok (answers.answerAt f.id) else .error .notHashable := rfl
  have ends {last : Record} (can : f.CanStart answers) :
      (.ok last : Except Fault Record) = .ok next ↔ f.CanStart answers ∧ next = last :=
    ⟨fun same => ⟨can, (Except.ok.inj same).symm⟩, fun same => congrArg Except.ok same.2.symm⟩
  rw [prime, start?, lacks, starter, asked]
  by_cases date : f.isDate = true
  · rw [if_pos date, if_pos date, if_pos date]
    by_cases key : f.id.isHashable = true
    · have can : f.CanStart answers :=
        ⟨fun _ => key, fun signer => absurd signer (by simp [isSigner_of_isDate date])⟩
      rw [if_pos key, ok_bind]
      by_cases absent : answers.answerAt f.id = .null
      · rw [if_pos absent, if_pos (decide_eq_true absent)]
        exact ends can
      · rw [if_neg absent, if_neg (by simp [absent])]
        exact ends can
    · rw [if_neg key]
      exact iff_of_false (by simp) fun same => key (same.1.key (.inl date))
  · rw [if_neg date, if_neg date, if_neg date]
    by_cases needs : (f.isSigner && f.minItems.isPresent) = true
    · obtain ⟨signer, asks⟩ := Bool.and_eq_true_iff.1 needs
      rw [if_pos needs, needs, Bool.true_and]
      by_cases key : f.id.isHashable = true
      · rw [if_pos key, ok_bind]
        cases present : (answers.answerAt f.id).isPresent with
        | true =>
            refine ends ⟨fun _ => key, fun _ bare => ?_⟩
            simp [lacks_of_isSigner signer, present] at bare
        | false =>
            have bare := (lacks_of_isSigner signer).2 ⟨asks, present⟩
            cases rows : rowCount f.minItems with
            | ok n => exact ends ⟨fun _ => key, fun _ _ => ⟨n, rows⟩⟩
            | error fault =>
                refine iff_of_false (by simp) fun same => ?_
                obtain ⟨n, counted⟩ := same.1.rows signer bare
                exact absurd (rows.symm.trans counted) (by simp)
      · rw [if_neg key]
        exact iff_of_false (by simp) fun same => key (same.1.key (.inr ⟨signer, asks⟩))
    · rw [if_neg needs, Bool.eq_false_iff.2 needs, Bool.false_and, if_neg Bool.false_ne_true]
      rw [Bool.and_eq_true, not_and] at needs
      exact ends ⟨fun wants => (wants.elim date fun both => needs both.1 both.2).elim,
        fun signer bare => absurd ((lacks_of_isSigner signer).1 bare).1 (needs signer)⟩

/-! ## The fields of a form -/

section fields

variable {fields : List Field}

/-- Whether a later field is given an answer does not depend on what was written for an earlier
one. -/
theorem answerAt_putAll_start? (can : f.CanStart answers) (apart : f.id.Apart g.id) :
    (answers.putAll (f.start? today answers).toList).answerAt g.id = answers.answerAt g.id := by
  cases start : f.start? today answers with
  | none => rfl
  | some e =>
      obtain ⟨bare, rfl⟩ := start?_eq_some_iff.1 start
      have found := Record.find?_put (can.key (sort_of_lacks bare)) answers (f.starter today) g.id
      rw [if_neg (by simp [apart.1])] at found
      exact congrArg (fun o => o.getD .null) found

/-- What priming writes for the fields of a form. -/
def starts (today : Date) (answers : Record) (fields : List Field) : Record :=
  fields.filterMap (start? today answers)

theorem starts_cons : starts today answers (f :: fields) =
    (f.start? today answers).toList ++ starts today answers fields := by
  rw [starts, List.filterMap_cons]
  cases f.start? today answers <;> rfl

/-- Fields are primed one after another, but each is filled from the given answers. -/
theorem foldlM_prime_eq_ok_iff (distinct : (fields.map id).Pairwise Value.Apart) :
    fields.foldlM (prime today) answers = .ok next ↔
      (∀ f ∈ fields, f.CanStart answers) ∧ next = answers.putAll (starts today answers fields) := by
  induction fields generalizing answers with
  | nil => simp [pure, Except.pure, starts, eq_comm]
  | cons f fields ih =>
      rw [List.map_cons, List.pairwise_cons] at distinct
      rw [List.foldlM_cons, bind_eq_ok, List.forall_mem_cons, starts_cons, Record.putAll_append]
      simp only [prime_eq_ok_iff, ih distinct.2, and_assoc, exists_and_left, exists_eq_left]
      refine and_congr_right fun can => ?_
      -- What the first field writes is no answer to a later one.
      have same : ∀ g ∈ fields, (answers.putAll (f.start? today answers).toList).answerAt g.id =
          answers.answerAt g.id := fun g member =>
        answerAt_putAll_start? can (distinct.1 g.id (List.mem_map_of_mem member))
      have rest : starts today (answers.putAll (f.start? today answers).toList) fields =
          starts today answers fields :=
        List.filterMap_congr fun g member => start?_congr (same g member)
      rw [rest]
      exact and_congr_left' (forall₂_congr fun g member => canStart_congr (same g member))

theorem isProper_starts (distinct : (fields.map id).Pairwise Value.Apart)
    (can : ∀ f ∈ fields, f.CanStart answers) : (starts today answers fields).IsProper := by
  constructor
  · intro e member
    obtain ⟨f, listed, start⟩ := List.mem_filterMap.1 member
    obtain ⟨bare, rfl⟩ := start?_eq_some_iff.1 start
    exact (can f listed).key (sort_of_lacks bare)
  · refine (List.pairwise_map.1 distinct).filterMap _ ?_
    intro f g apart e start e' start'
    rw [(start?_eq_some_iff.1 start).2, (start?_eq_some_iff.1 start').2]
    exact apart

theorem find?_starts_eq_none {key : Value}
    (other : ∀ f ∈ fields, f.lacks answers = true → f.id.agrees key = false) :
    Record.find? (starts today answers fields) key = none := by
  rw [Record.find?, Option.map_eq_none_iff, List.find?_eq_none]
  intro e member
  obtain ⟨f, listed, start⟩ := List.mem_filterMap.1 member
  obtain ⟨bare, rfl⟩ := start?_eq_some_iff.1 start
  simp [other f listed bare]

/-- Under the id of a field stands what is written for that field. -/
theorem find?_starts (distinct : (fields.map id).Pairwise Value.Apart) (member : f ∈ fields) :
    Record.find? (starts today answers fields) f.id = (f.start? today answers).map Prod.snd := by
  induction fields with
  | nil => exact absurd member List.not_mem_nil
  | cons g fields ih =>
      rw [List.map_cons, List.pairwise_cons] at distinct
      have apart : ∀ h ∈ fields, g.id.Apart h.id := fun h listed =>
        distinct.1 h.id (List.mem_map_of_mem listed)
      rw [starts_cons]
      rcases List.mem_cons.1 member with rfl | later
      · have rest : Record.find? (starts today answers fields) f.id = none :=
          find?_starts_eq_none fun h listed _ => (apart h listed).2
        cases start : f.start? today answers with
        | none => exact rest
        | some e =>
            obtain ⟨-, rfl⟩ := start?_eq_some_iff.1 start
            rw [Option.toList_some, List.singleton_append, Record.find?_cons,
              if_pos (Value.agrees_self f.id)]
            rfl
      · cases start : g.start? today answers with
        | none => exact ih distinct.2 later
        | some e =>
            obtain ⟨-, rfl⟩ := start?_eq_some_iff.1 start
            rw [Option.toList_some, List.singleton_append, Record.find?_cons,
              if_neg (by simp [(apart f later).1]), ih distinct.2 later]

end fields

end Field

namespace Template

variable {v : Value} {t : Template} {today : Date} {given primed : Record} {f : Field}

theorem distinct_eq_nil {vs : List Value} (h : distinct vs = []) : vs = [] := by
  have grows (vs kept : List Value)
      (h : vs.foldl (fun kept v => if v.agreesWithAny kept then kept else kept ++ [v]) kept = []) :
      kept = [] := by
    induction vs generalizing kept with
    | nil => exact h
    | cons v vs ih =>
        have next := ih _ h
        dsimp only at next
        split at next
        · exact next
        · exact absurd next (by simp)
  cases vs with
  | nil => rfl
  | cons v vs => exact absurd (grows vs [v] h) (by simp)

/-- Ids that have been checked can be keys, and no two of them agree. -/
theorem apart_of_checkIds {ids : List Value} (h : checkIds ids = .ok ()) :
    (∀ id ∈ ids, id.isHashable = true) ∧ ids.Pairwise Value.Apart := by
  rw [checkIds] at h
  split at h
  · rename_i keys
    split at h
    · rename_i single
      have once : ∀ id ∈ ids, ¬ 1 < countOf id ids := by
        have none := List.filter_eq_nil_iff.1 (distinct_eq_nil single)
        exact fun id member => by simpa using none id member
      refine ⟨List.all_eq_true.1 keys, List.pairwise_iff_forall_sublist.2 fun {a b} both => ?_⟩
      have twice (id : Value) (member : id ∈ [a, b]) (agree : [a, b].countP (·.agrees id) = 2) :
          False := by
        have counted : [a, b].countP (·.agrees id) ≤ countOf id ids := both.countP_le
        exact once id (both.subset member) (by omega)
      constructor
      · by_contra same
        exact twice b (by simp) (by simp_all [List.countP_cons, Value.agrees_self])
      · by_contra same
        exact twice a (by simp) (by simp_all [List.countP_cons, Value.agrees_self])
    · obtain ⟨shown, -, h⟩ := bind_eq_ok.1 h
      exact absurd h (by simp)
  · exact absurd h (by simp)

/-- No two fields of a template that has been read have the same id, and every id can be a key. -/
theorem apart_of_parse (read : parse v = .ok t) :
    (∀ id ∈ t.fieldIds, id.isHashable = true) ∧ t.fieldIds.Pairwise Value.Apart :=
  apart_of_checkIds (parse_eq_ok_iff.1 read).2.1

theorem prime_eq_ok_iff (distinct : t.fieldIds.Pairwise Value.Apart) :
    t.prime today given = .ok primed ↔ (∀ f ∈ t.fields, f.CanStart given) ∧
      primed = given.putAll (Field.starts today given t.fields) :=
  Field.foldlM_prime_eq_ok_iff distinct

/-- After priming a field has the answer with which it starts, or else the given one. -/
theorem find?_prime (distinct : t.fieldIds.Pairwise Value.Apart)
    (done : t.prime today given = .ok primed) (member : f ∈ t.fields) :
    primed.find? f.id = if f.lacks given then some (f.starter today) else given.find? f.id := by
  obtain ⟨can, rfl⟩ := (prime_eq_ok_iff distinct).1 done
  rw [(Field.isProper_starts distinct can).find?_putAll, Field.find?_starts distinct member,
    Field.start?]
  cases f.lacks given <;> rfl

theorem lacks_of_prime (distinct : t.fieldIds.Pairwise Value.Apart)
    (done : t.prime today given = .ok primed) (member : f ∈ t.fields)
    (bare : f.lacks primed = true) : f.lacks given = true := by
  have found := find?_prime distinct done member
  cases before : f.lacks given with
  | true => rfl
  | false =>
      rw [before] at found
      have same : primed.answerAt f.id = given.answerAt f.id := congrArg (·.getD .null) found
      rw [Field.lacks_congr same, before] at bare
      exact bare

/-- A form that has been primed is not changed by priming it again: what is written a second time
is what has been written before. -/
theorem prime_prime (distinct : t.fieldIds.Pairwise Value.Apart)
    (done : t.prime today given = .ok primed) : t.prime today primed = .ok primed := by
  have can := ((prime_eq_ok_iff distinct).1 done).1
  refine (prime_eq_ok_iff distinct).2 ⟨fun f member => ?_, (Record.putAll_self ?_).symm⟩
  · exact ⟨(can f member).key, fun signer bare =>
      (can f member).rows signer (lacks_of_prime distinct done member bare)⟩
  · intro e written
    obtain ⟨f, member, start⟩ := List.mem_filterMap.1 written
    obtain ⟨bare, rfl⟩ := Field.start?_eq_some_iff.1 start
    rw [find?_prime distinct done member, if_pos (lacks_of_prime distinct done member bare)]

theorem prime_perm (distinct : t.fieldIds.Pairwise Value.Apart)
    (done : t.prime today given = .ok primed) {fields : List Field} (same : t.fields.Perm fields) :
    ∃ other, prime { t with fields } today given = .ok other ∧ primed.Perm other ∧
      ∀ key, primed.find? key = other.find? key := by
  obtain ⟨can, rfl⟩ := (prime_eq_ok_iff distinct).1 done
  have distinct' : (fields.map Field.id).Pairwise Value.Apart :=
    distinct.perm (same.map Field.id) Value.Apart.symm
  have entries : (Field.starts today given t.fields).Perm (Field.starts today given fields) :=
    same.filterMap _
  have proper : (Field.starts today given t.fields).IsProper := Field.isProper_starts distinct can
  refine ⟨_, (prime_eq_ok_iff (t := { t with fields }) distinct').2
    ⟨fun f member => can f (same.mem_iff.2 member), rfl⟩,
    proper.putAll_perm entries given, fun key => ?_⟩
  rw [proper.find?_putAll, (proper.perm entries).find?_putAll, proper.find?_perm entries]

/-- Priming again on the same day changes nothing, and the order of the fields makes no difference
but to the order of the new entries. What stands under a key that is the id of no date and of no
list of signers stays as it is, and so do a date that is not null and a list of signers that is
present; a date that is null or absent becomes today's. -/
theorem prime_stable (distinct : t.fieldIds.Pairwise Value.Apart)
    (done : t.prime today given = .ok primed) :
    t.prime today primed = .ok primed ∧
    (∀ fields, t.fields.Perm fields →
      ∃ other, prime { t with fields } today given = .ok other ∧ primed.Perm other ∧
        ∀ key, primed.find? key = other.find? key) ∧
    (∀ key : Value,
      (∀ f ∈ t.fields, f.isDate = true ∨ f.isSigner = true → f.id.agrees key = false) →
        primed.find? key = given.find? key) ∧
    ∀ f ∈ t.fields,
      (f.isDate = true → primed.find? f.id =
        if given.answerAt f.id = .null then some (.text today.iso) else given.find? f.id) ∧
      (f.isSigner = true → (given.answerAt f.id).isPresent = true →
        primed.find? f.id = given.find? f.id) := by
  refine ⟨prime_prime distinct done, fun fields => prime_perm distinct done, ?_, ?_⟩
  · intro key other
    obtain ⟨can, rfl⟩ := (prime_eq_ok_iff distinct).1 done
    have unwritten : (Field.starts today given t.fields).find? key = none :=
      Field.find?_starts_eq_none fun f member bare =>
        other f member ((Field.sort_of_lacks bare).imp_right And.left)
    rw [(Field.isProper_starts distinct can).find?_putAll, unwritten, Option.none_or]
  · intro f member
    rw [find?_prime distinct done member]
    constructor
    · intro date
      simp only [Field.lacks_of_isDate date, Field.starter, if_pos date]
    · intro signer present
      exact if_neg fun bare =>
        absurd present (by simp [((Field.lacks_of_isSigner signer).1 bare).2])

end Template

namespace Minutes

/-- The definition of a form with two signers, a day and a note. -/
def definition : Value :=
  .mapping [("id", "minutes"), ("name", "Minutes"), ("typeTag", "M"), ("document", .mapping []),
    ("fields", .list [
      .mapping [("id", "signers"), ("type", "signer"), ("minItems", .int 2)],
      .mapping [("id", "day"), ("type", "date")],
      .mapping [("id", "note")]])]

/-- A field with an id, a type and a number of rows. -/
def field (id type : String) (minItems : Value) : Field :=
  ⟨id, id, type, false, minItems, [], .null, .null, false, none, none, none, none⟩

/-- The form that is read from the definition. -/
def form : Template :=
  ⟨"minutes", "Minutes", 1, "M", Template.defaultPattern,
    [field "signers" "signer" (.int 2), field "day" "date" .null, field "note" "text" .null],
    "", ""⟩

/-- The day on which it is filled in. -/
def today : Date := ⟨2025, 10, 2, by decide⟩

theorem parse_definition : Template.parse definition = .ok form := by decide +kernel

end Minutes

/-- For instance, minutes with a note are given a day and signers, once and whatever comes first. -/
theorem Template.prime_stable_of_minutes :
    let given : Record := [("note", "n")]
    let signers : Value := .list [blankSigner, blankSigner]
    let primed : Record := [("note", "n"), ("signers", signers), ("day", "2025-10-02")]
    Minutes.form.fieldIds.Pairwise Value.Apart ∧
      Minutes.form.prime Minutes.today given = .ok primed ∧
      Minutes.form.prime Minutes.today primed = .ok primed ∧
      ∃ other, prime { Minutes.form with fields := Minutes.form.fields.reverse } Minutes.today
        given = .ok other ∧ primed.Perm other := by
  intro given signers primed
  have distinct := (apart_of_parse Minutes.parse_definition).2
  have done : Minutes.form.prime Minutes.today given = .ok primed := by decide +kernel
  obtain ⟨again, order, -⟩ := prime_stable distinct done
  obtain ⟨other, turned, same, -⟩ := order _ (List.reverse_perm _).symm
  exact ⟨distinct, done, again, other, turned, same⟩

/-! ## Signers -/

/-- The answers hold nothing, null or a list under an id, with the given rows. -/
def Record.HasRows (answers : Record) (id : Value) (rows : List Value) : Prop :=
  answers.answerAt id = .null ∧ rows = [] ∨ answers.answerAt id = .list rows

/-- The given rows with blank ones behind them, until there are as many as asked for. -/
structure PaddedTo (n : Nat) (given rows : List Value) : Prop where
  length : rows.length = max n given.length
  added : ∃ blank, rows = given ++ blank ∧ ∀ row ∈ blank, row = blankSigner

theorem isPresent_of_rowCount {v : Value} {n : Nat} (counted : rowCount v = .ok n) (some : 0 < n) :
    v.isPresent = true := by
  cases v with
  | int k =>
      obtain rfl := Except.ok.inj counted
      exact bne_iff_ne.2 (by omega)
  | bool b =>
      obtain rfl := Except.ok.inj counted
      cases b with
      | true => rfl
      | false => exact absurd some (by decide)
  | _ => exact absurd counted (by simp [rowCount])

theorem paddedTo_blank (n : Nat) : PaddedTo n [] (List.replicate n blankSigner) :=
  ⟨by simp, List.replicate n blankSigner, rfl, fun _ => List.eq_of_mem_replicate⟩

theorem paddedTo_self_iff {n : Nat} {rows : List Value} :
    PaddedTo n rows rows ↔ n ≤ rows.length := by
  constructor
  · intro h
    have length := h.length
    omega
  · intro enough
    exact ⟨(Nat.max_eq_right enough).symm, [], (List.append_nil rows).symm, by simp⟩

/-- A list of signers without rows lacks them if the field asks for some. -/
theorem Field.lacks_iff_of_hasRows {answers : Record} {f : Field} {rows : List Value}
    (signer : f.isSigner = true) (asks : f.minItems.isPresent = true)
    (given : answers.HasRows f.id rows) : f.lacks answers = true ↔ rows = [] := by
  rw [lacks_of_isSigner signer, and_iff_right asks]
  rcases given with ⟨absent, rfl⟩ | listed
  · simp [absent, Value.isPresent]
  · simp [listed, Value.isPresent]

/-- A template that has been read can be primed unless it has a list of signers that is not present
and asks for what is no number of rows. A list of signers that asks for some rows has as many blank
ones if it had none, and otherwise the rows that it had: it is padded exactly if it had none, or
enough. -/
theorem Template.prime_signers {v : Value} {t : Template} (read : parse v = .ok t) (today : Date)
    (given : Record) :
    ((∃ primed, t.prime today given = .ok primed) ↔
      ∀ f ∈ t.fields, f.isSigner = true → f.minItems.isPresent = true →
        (given.answerAt f.id).isPresent = false → ∃ n, rowCount f.minItems = .ok n) ∧
    ∀ primed, t.prime today given = .ok primed → ∀ f ∈ t.fields, f.isSigner = true →
      ∀ n rows, rowCount f.minItems = .ok n → 0 < n → given.HasRows f.id rows →
        ∃ shown, primed.find? f.id = some (.list shown) ∧
          (shown = if rows = [] then List.replicate n blankSigner else rows) ∧
          (PaddedTo n rows shown ↔ rows = [] ∨ n ≤ rows.length) := by
  obtain ⟨keys, distinct⟩ := apart_of_parse read
  constructor
  · simp only [prime_eq_ok_iff distinct, exists_and_left, exists_eq, and_true]
    refine forall₂_congr fun f member => ⟨fun can signer asks absent => ?_, fun counts => ⟨?_, ?_⟩⟩
    · exact can.rows signer ((Field.lacks_of_isSigner signer).2 ⟨asks, absent⟩)
    · exact fun _ => keys f.id (List.mem_map_of_mem member)
    · intro signer bare
      obtain ⟨asks, absent⟩ := (Field.lacks_of_isSigner signer).1 bare
      exact counts signer asks absent
  · intro primed done f member signer n rows counted some held
    have bare := Field.lacks_iff_of_hasRows signer (isPresent_of_rowCount counted some) held
    rw [find?_prime distinct done member]
    by_cases none : rows = []
    · subst none
      have starter : f.starter today = .list (List.replicate n blankSigner) := by
        rw [Field.starter, if_neg (by simp [Field.isDate_of_isSigner signer]), counted]
        rfl
      refine ⟨_, (if_pos (bare.2 rfl)).trans (congrArg Option.some starter), rfl, ?_⟩
      exact iff_of_true (paddedTo_blank n) (.inl rfl)
    · have listed : given.answerAt f.id = .list rows := held.resolve_left fun h => none h.2
      refine ⟨rows, ?_, (if_neg none).symm, ?_⟩
      · rw [if_neg (mt bare.1 none)]
        rw [Record.answerAt] at listed
        cases found : given.find? f.id with
        | none => exact absurd (found ▸ listed) (by simp)
        | some w =>
            rw [found] at listed
            exact congrArg Option.some listed
      · rw [paddedTo_self_iff, or_iff_right none]

/-- For instance, minutes that ask for two signers get two blank rows if none is given, but stay
with one if one is given. -/
theorem Template.signers_of_minutes :
    let ann : Value := .mapping [("name", "Ann")]
    let primed (rows : List Value) : Record := [("signers", .list rows), ("day", "2025-10-02")]
    Minutes.form.prime Minutes.today [] = .ok (primed [blankSigner, blankSigner]) ∧
      PaddedTo 2 [] [blankSigner, blankSigner] ∧
      Minutes.form.prime Minutes.today [("signers", .list [ann])] = .ok (primed [ann]) ∧
      ¬ PaddedTo 2 [ann] [ann] := by
  intro ann primed
  have member : Minutes.field "signers" "signer" (.int 2) ∈ Minutes.form.fields :=
    List.mem_cons_self
  have empty : Minutes.form.prime Minutes.today [] = .ok (primed [blankSigner, blankSigner]) := by
    decide +kernel
  have one : Minutes.form.prime Minutes.today [("signers", .list [ann])] = .ok (primed [ann]) := by
    decide +kernel
  refine ⟨empty, ?_, one, fun padded => ?_⟩
  · obtain ⟨shown, -, rfl, padded⟩ := (prime_signers Minutes.parse_definition _ _).2 _ empty _
      member rfl 2 [] rfl (by decide) (.inl ⟨rfl, rfl⟩)
    exact padded.2 (.inl rfl)
  · obtain ⟨shown, -, rfl, short⟩ := (prime_signers Minutes.parse_definition _ _).2 _ one _
      member rfl 2 [ann] rfl (by decide) (.inr (by decide +kernel))
    exact absurd (short.1 padded) (by decide)

end MinuteBook
