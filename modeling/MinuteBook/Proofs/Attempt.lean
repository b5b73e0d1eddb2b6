import MinuteBook.Document
import MinuteBook.Proofs.Printing
import MinuteBook.Proofs.Saving

/-!
# What an attempt leaves behind

An attempt at a document either takes no number, and then leaves everything as it is, or takes the
next number of one series. What becomes of that number is said by `Taken`, with one case for each
way in which the attempt may end. The steps of an attempt are opened for `produce_spec`, from which
everything about attempts in a row is drawn, and for `exists_of_produced`, which tells from where
a numbered document has its number and its texts.
-/

namespace MinuteBook

open Disk (MoreFolders Leads Permitted)

/-! ## Texts of numbers and of notes -/

theorem Register.longOnly_rowText (c : Series × Int) : LongOnly (Register.rowText c) :=
  (Value.longOnly_wholeText _).bind fun _ => (Value.longOnly_wholeText _).map _

theorem Register.longOnly_text (r : Register) : LongOnly r.text := by
  have rows (cs : List (Series × Int)) : LongOnly (rowsText cs) := by
    fun_induction rowsText cs with
    | case1 => exact .ok _
    | case2 c => exact longOnly_rowText c
    | case3 c cs _ ih => exact (longOnly_rowText c).bind fun _ => ih.map _
  unfold text
  split
  · exact .ok _
  · exact (rows _).map _

theorem Numbering.longOnly_twoPlaces (n : Int) : LongOnly (twoPlaces n) := by
  unfold twoPlaces
  split
  · exact .ok _
  · exact Value.longOnly_wholeText n

theorem Numbering.longOnly_idText (s : Series) (n : Int) (tag : Value) :
    LongOnly (idText s n tag) :=
  (Value.longOnly_wholeText _).bind fun _ => (longOnly_twoPlaces n).bind fun _ =>
    (Value.longOnly_display tag).map _

theorem Template.longOnly_note (t : Template) (before after : String) :
    LongOnly (t.note before after) :=
  (Value.longOnly_display t.id).map _

/-! ## Saving -/

namespace Numbering

variable {sys : System} {n : Numbering} {d d' : Disk} {file : Location}

/-- The disk holds a numbering: in its file, if it has one, is the text of its register. -/
def SavedTo (n : Numbering) (before after : Disk) : Prop :=
  match n.file with
  | none => after = before
  | some file => ∃ text, n.register.text = .ok text ∧ after.read file = .ok text.toUTF8

/-- What can be the fault if a number is not saved. -/
def Unsavable (n : Numbering) (f : Fault) : Prop :=
  f = .tooManyDigits ∨ f = .badPath ∧ ∃ file, n.file = some file ∧ ¬ Permitted file

theorem save_eq_ok (place : n.file = some file) (h : n.save sys none d = (d', .ok ())) :
    n.SavedTo d d' := by
  rw [SavedTo, place]
  exact read_of_save ((Option.none_or).trans place) h

theorem save_eq_error {e : SaveError} (place : n.file = some file)
    (h : n.save sys none d = (d', .error e)) :
    MoreFolders d d' ∧ ∀ f, e = .fault f → n.Unsavable f := by
  rcases save_cases (Option.none_or.trans place) h with
    ⟨f, unwritten, rfl, failed⟩ | ⟨text, outcome, -, wrote, done⟩
  · obtain rfl := Except.error.inj failed
    refine ⟨.refl d', ?_⟩
    rintro _ ⟨⟩
    exact .inl (n.register.longOnly_text f unwritten)
  · cases outcome with
    | ok u => exact absurd done (by simp [Except.mapError])
    | error cause =>
        obtain rfl : e = SaveError.ofDisk file cause := Except.error.inj done
        refine ⟨moreFolders_writeFile wrote, fun f fault => ?_⟩
        unfold SaveError.ofDisk at fault
        split at fault
        · obtain rfl := SaveError.fault.inj fault
          refine .inr ⟨rfl, file, place, fun permitted => ?_⟩
          exact writeFile_ne_forbiddenName permitted wrote rfl
        · exact absurd fault (by simp)

end Numbering

/-! ## Taking a number -/

/-- The arguments of the number are those of a computation of the form. -/
theorem Template.exists_of_numberArgs? {t : Template} {args : Record}
    (h : t.numberArgs? = some args) :
    ∃ f ∈ t.fields, ∃ c, f.computation = some c ∧ c.args = args := by
  rw [numberArgs?] at h
  split at h
  · rename_i c computed
    obtain ⟨f, found, computed⟩ := Option.bind_eq_some_iff.1 computed
    split at h
    · exact ⟨f, List.mem_of_find?_eq_some found, c, computed, Option.some.inj h⟩
    · exact absurd h (by simp)
  · exact absurd h (by simp)

/-- The series from which an attempt takes a number: none, if the answers are not in order or the
template asks for no number. -/
def Template.series? (t : Template) (entities : Option Entities) (today : Date)
    (answers : Record) : Option Series :=
  match t.review entities answers with
  | .ok (s, []) => t.numberArgs?.bind fun args => (t.seriesOf today args s).toOption
  | _ => none

theorem Template.series?_eq_some_iff {t : Template} {entities : Option Entities} {today : Date}
    {answers : Record} {s : Series} : t.series? entities today answers = some s ↔
      ∃ store args, t.review entities answers = .ok (store, []) ∧ t.numberArgs? = some args ∧
        t.seriesOf today args store = .ok s := by
  rw [series?]
  constructor
  · intro h
    split at h
    · rename_i store reviewed
      obtain ⟨args, wanted, h⟩ := Option.bind_eq_some_iff.1 h
      cases found : t.seriesOf today args store with
      | error f => simp [found, Except.toOption] at h
      | ok u =>
          rw [found] at h
          exact ⟨store, args, reviewed, wanted, (Option.some.inj h) ▸ found⟩
    · exact absurd h (by simp)
  · rintro ⟨store, args, reviewed, wanted, found⟩
    rw [reviewed, wanted]
    simp [found, Except.toOption]

/-- A number that cannot be saved is withdrawn, whether or not that can be noted. -/
@[simp] theorem Template.saveError?_unsaved (t : Template) (number : String)
    (e : Numbering.SaveError) : (t.unsaved number e).saveError? = some e := by
  unfold unsaved
  split <;> rfl

namespace Desk

variable {sys : Numbering.System} {desk desk' : Desk} {entities : Option Entities}
  {today : Date} {t : Template} {answers : Record} {s : Series} {result : Except Failure Outcome}

/-- The numbering after the next number of a series has been given out. -/
def advanced (desk : Desk) (s : Series) : Numbering :=
  { desk.numbering with register := desk.numbering.register.bump s }

/-- The numbering after that number has been taken back. -/
def withdrawn (desk : Desk) (s : Series) : Numbering :=
  { desk.numbering with
    register := (desk.numbering.register.bump s).restore s (desk.numbering.register.last s) }

/-- What becomes of a number that an attempt has taken from a series. -/
inductive Taken (desk : Desk) (t : Template) (s : Series) :
    Desk → Except Failure Outcome → Prop where
  /-- It could not be saved and was taken back. -/
  | withdrawn {d : Disk} {e : Failure} {cause : Numbering.SaveError} {number : String}
      (more : MoreFolders desk.disk d) (failed : e = t.unsaved number cause) :
      Taken desk t s ⟨desk.withdrawn s, d⟩ (.error e)
  /-- It was lost before it was saved. -/
  | unsaved {d : Disk} {f : Fault} (more : MoreFolders desk.disk d)
      (cause : (desk.advanced s).Unsavable f) :
      Taken desk t s ⟨desk.advanced s, d⟩ (.error (.fault f))
  /-- It was lost when the document was printed, or when that was noted. -/
  | unprinted {d : Disk} {f : Fault} (saved : (desk.advanced s).SavedTo desk.disk d)
      (store : Store) (number : String) (cause : t.finish store number = .error f) :
      Taken desk t s ⟨desk.advanced s, d⟩ (.error (.fault f))
  /-- It is the number of a document. -/
  | issued {d : Disk} {document : Document} {number : String}
      (saved : (desk.advanced s).SavedTo desk.disk d)
      (text : Numbering.idText s (desk.numbering.register.last s + 1) t.typeTag = .ok number)
      (carried : document.number = some number) :
      Taken desk t s ⟨desk.advanced s, d⟩ (.ok (.produced document))

theorem keep_spec {previous : Int} {number : String} {outcome : Except Failure Unit}
    (h : keep sys desk t s previous number = (desk', outcome)) :
    (outcome = .ok () ∧ desk'.numbering = desk.numbering ∧
        desk.numbering.SavedTo desk.disk desk'.disk) ∨
      (∃ f, outcome = .error (.fault f) ∧ desk'.numbering = desk.numbering ∧
        MoreFolders desk.disk desk'.disk ∧ desk.numbering.Unsavable f) ∨
      (∃ e, outcome = .error (t.unsaved number e) ∧ MoreFolders desk.disk desk'.disk ∧
        desk'.numbering =
          { desk.numbering with register := desk.numbering.register.restore s previous }) := by
  unfold keep at h
  cases place : desk.numbering.file with
  | none =>
      simp only [place, Option.isNone_none, if_true] at h
      obtain ⟨rfl, rfl⟩ := Prod.mk.inj h
      refine .inl ⟨rfl, rfl, ?_⟩
      rw [Numbering.SavedTo, place]
  | some file =>
      simp only [place, Option.isNone_some, Bool.false_eq_true, if_false] at h
      split at h
      · rename_i saved
        obtain ⟨rfl, rfl⟩ := Prod.mk.inj h
        exact .inl ⟨rfl, rfl, Numbering.save_eq_ok place saved⟩
      · rename_i failed
        obtain ⟨rfl, rfl⟩ := Prod.mk.inj h
        obtain ⟨more, cause⟩ := Numbering.save_eq_error place failed
        exact .inr (.inl ⟨_, rfl, rfl, more, cause _ rfl⟩)
      · rename_i failed
        obtain ⟨rfl, rfl⟩ := Prod.mk.inj h
        exact .inr (.inr ⟨_, rfl, (Numbering.save_eq_error place failed).1, by simp only [place]⟩)

theorem number_of_print {store : Store} {number : Option String} {document : Document}
    (h : t.print store number = .ok document) : document.number = number := by
  obtain ⟨title, -, h⟩ := bind_eq_ok.1 h
  obtain ⟨body, -, h⟩ := bind_eq_ok.1 h
  obtain ⟨fileName, -, h⟩ := bind_eq_ok.1 h
  obtain rfl := Except.ok.inj h
  rfl

theorem issue_eq (desk : Desk) (s : Series) (tag : Value) :
    desk.numbering.issue s tag =
      (desk.advanced s, Numbering.idText s (desk.numbering.register.last s + 1) tag) := by
  rw [Numbering.issue, Register.last_bump_self]
  rfl

theorem outcome_of_reject {errors : List Value} {outcome : Outcome}
    (h : t.reject errors = .ok outcome) : outcome = .rejected errors := by
  obtain ⟨_, -, h⟩ := bind_eq_ok.1 h
  exact (Except.ok.inj h).symm

theorem print_of_finish {store : Store} {number : Option String} {document : Document}
    (h : t.finish store number = .ok document) : t.print store number = .ok document := by
  obtain ⟨d, printed, h⟩ := bind_eq_ok.1 h
  obtain ⟨_, -, h⟩ := bind_eq_ok.1 h
  obtain rfl := Except.ok.inj h
  exact printed

theorem number_of_finish {store : Store} {number : Option String} {document : Document}
    (h : t.finish store number = .ok document) : document.number = number :=
  number_of_print (print_of_finish h)

/-- An attempt that has taken a number, from there on. -/
theorem taken_of_issue {store : Store} {outcome : Except Failure String}
    (h : desk.issue sys t s = (desk', outcome)) :
    Taken desk t s desk' (outcome.bind fun id =>
      (t.finish store (some id)).map .produced |>.mapError .fault) := by
  unfold issue at h
  rw [issue_eq] at h
  generalize text : Numbering.idText s (desk.numbering.register.last s + 1) t.typeTag = issued at h
  cases issued with
  | error f =>
      obtain ⟨rfl, rfl⟩ := Prod.mk.inj h
      exact .unsaved (.refl _) (.inl (Numbering.longOnly_idText _ _ _ f text))
  | ok id =>
      simp only at h
      generalize kept : keep sys _ t s _ id = result at h
      obtain ⟨after, saved⟩ := result
      obtain ⟨rfl, rfl⟩ := Prod.mk.inj h
      obtain ⟨numbering, d⟩ := after
      rcases keep_spec kept with ⟨rfl, rfl, disk⟩ | ⟨f, rfl, rfl, more, cause⟩ | ⟨e, rfl, more, rfl⟩
      · -- The number is saved; what is left is to print the document.
        change Taken desk t s _ ((t.finish store (some id)).map .produced |>.mapError .fault)
        cases finished : t.finish store (some id) with
        | error f => exact .unprinted disk store id finished
        | ok document => exact .issued disk text (number_of_finish finished)
      · exact .unsaved more cause
      · exact .withdrawn more rfl

/-- The year of a series is that of a date, so it is short. -/
theorem short_year {args : Record} {s : Store} {series : Series}
    (h : t.seriesOf today args s = .ok series) : series.year.natAbs < Text.wholeLimit := by
  obtain ⟨entity, -, h⟩ := bind_eq_ok.1 h
  obtain ⟨day, -, h⟩ := bind_eq_ok.1 h
  obtain rfl := Except.ok.inj h
  have small : day.year ≤ 9999 := by
    have exists_day := day.exists_day
    simp only [isDay, Bool.and_eq_true, decide_eq_true_eq] at exists_day
    exact exists_day.1.1.1.2
  exact Text.lt_wholeLimit (k := 4) (Nat.lt_succ_of_le small) (by decide)

/-- An attempt that takes a number from a series is what becomes of that number, and then of the
document. -/
theorem produce_of_series? (h : t.series? entities today answers = some s) :
    ∃ store, ∀ sys desk, produce sys desk entities today t answers =
      ((desk.issue sys t s).1, (desk.issue sys t s).2.bind fun id =>
        (t.finish store (some id)).map .produced |>.mapError .fault) := by
  obtain ⟨store, args, reviewed, wanted, found⟩ := Template.series?_eq_some_iff.1 h
  refine ⟨store, fun sys desk => ?_⟩
  rw [produce, reviewed]
  simp only [number, wanted, found]
  generalize desk.issue sys t s = issued
  obtain ⟨after, outcome⟩ := issued
  cases outcome <;> rfl

/-- Every attempt either takes no number and changes nothing, or takes one from its series. -/
theorem produce_spec (h : desk.produce sys entities today t answers = (desk', result)) :
    match t.series? entities today answers with
    | none => desk' = desk ∧ ∀ document, result = .ok (.produced document) → document.number = none
    | some s => Taken desk t s desk' result := by
  cases wanted : t.series? entities today answers with
  | some s =>
      obtain ⟨store, steps⟩ := produce_of_series? wanted
      rw [steps] at h
      obtain ⟨rfl, rfl⟩ := Prod.mk.inj h
      exact taken_of_issue rfl
  | none =>
      unfold produce at h
      cases reviewed : t.review entities answers with
      | error f =>
          simp only [reviewed] at h
          obtain ⟨rfl, rfl⟩ := Prod.mk.inj h
          exact ⟨rfl, by simp⟩
      | ok after =>
          obtain ⟨store, errors⟩ := after
          simp only [reviewed] at h
          cases errors with
          | cons e es =>
              obtain ⟨rfl, rfl⟩ := Prod.mk.inj h
              refine ⟨rfl, fun document produced => ?_⟩
              exact absurd (outcome_of_reject (mapError_eq_ok.1 produced)) (by simp)
          | nil =>
              simp only [number] at h
              cases asked : t.numberArgs? with
              | none =>
                  simp only [asked] at h
                  obtain ⟨rfl, rfl⟩ := Prod.mk.inj h
                  refine ⟨rfl, fun document produced => ?_⟩
                  cases finished : t.finish store none with
                  | error f => simp [finished, Except.map, Except.mapError] at produced
                  | ok d =>
                      simp only [finished, Except.map, Except.mapError, Except.ok.injEq,
                        Outcome.produced.injEq] at produced
                      rw [← produced]
                      exact number_of_finish finished
              | some args =>
                  cases found : t.seriesOf today args store with
                  | error f =>
                      simp only [asked, found] at h
                      obtain ⟨rfl, rfl⟩ := Prod.mk.inj h
                      exact ⟨rfl, by simp⟩
                  | ok s =>
                      have taken := Template.series?_eq_some_iff.2
                        ⟨store, args, reviewed, asked, found⟩
                      rw [wanted] at taken
                      exact absurd taken (by simp)

/-- A number that has been given out is the next of its series. -/
theorem idText_of_issue {id : String} (h : desk.issue sys t s = (desk', .ok id)) :
    Numbering.idText s (desk.numbering.register.last s + 1) t.typeTag = .ok id := by
  unfold issue at h
  rw [issue_eq] at h
  generalize Numbering.idText s (desk.numbering.register.last s + 1) t.typeTag = text at h ⊢
  cases text with
  | error f => exact absurd (Prod.mk.inj h).2 (by simp)
  | ok number =>
      simp only at h
      generalize keep sys _ t s _ number = kept at h
      have done := (Prod.mk.inj h).2
      cases outcome : kept.2 with
      | error e => exact absurd (outcome ▸ done) (by simp [Except.map])
      | ok u =>
          rw [outcome] at done
          exact congrArg Except.ok (Except.ok.inj done)

/-- A document that has been produced from a template that asks for a number: its answers are in
order, its number is the next of their series, and it is printed with that number. -/
theorem exists_of_produced {args : Record} {document : Document}
    (wanted : t.numberArgs? = some args)
    (h : desk.produce sys entities today t answers = (desk', .ok (.produced document))) :
    ∃ store s id, t.review entities answers = .ok (store, []) ∧
      t.seriesOf today args store = .ok s ∧
      Numbering.idText s (desk.numbering.register.last s + 1) t.typeTag = .ok id ∧
      t.print store (some id) = .ok document := by
  unfold produce at h
  split at h
  · exact absurd (Prod.mk.inj h).2 (by simp)
  · rename_i store reviewed
    simp only [number, wanted] at h
    cases found : t.seriesOf today args store with
    | error f =>
        rw [found] at h
        exact absurd (Prod.mk.inj h).2 (by simp)
    | ok s =>
        simp only [found] at h
        generalize taken : desk.issue sys t s = issued at h
        obtain ⟨after, outcome⟩ := issued
        cases outcome with
        | error e => exact absurd (Prod.mk.inj h).2 (by simp)
        | ok id =>
            refine ⟨store, s, id, reviewed, found, idText_of_issue taken, ?_⟩
            have finished := mapError_eq_ok.1 (Prod.mk.inj h).2
            cases text : t.finish store (some id) with
            | error f => exact absurd (text ▸ finished) (by simp [Except.map])
            | ok d =>
                rw [text] at finished
                obtain rfl := Outcome.produced.inj (Except.ok.inj finished)
                exact print_of_finish text
  · have rejected := outcome_of_reject (mapError_eq_ok.1 (Prod.mk.inj h).2)
    exact absurd rejected (by simp)

end Desk

end MinuteBook
