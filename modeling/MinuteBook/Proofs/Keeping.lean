import MinuteBook.Proofs.Register.Steady
import MinuteBook.Proofs.Rewriting
import MinuteBook.Proofs.Run

/-!
# A desk and one of its counters

What comes of an attempt at a number of a series is decided by the attempt and by the last number of
that series, whatever else the register holds and whatever has been saved before (`answer_alike`).
An attempt that loses no number leaves the counter in memory and the one in the file equal
(`Keeps.answer`).
-/

namespace MinuteBook

open Disk (Leads Permitted)
open MinuteBook.Numbering (Within Writable)

namespace Desk

variable {sys : Numbering.System} {desk desk' other : Desk} {base : Disk} {file : Location}
  {k s : Series} {t : Template} {c : Call} {result : Except Failure Outcome} {room : Nat}

/-! ## Giving out a number -/

/-- What comes of a number that has a file to be saved in: it has no text, or it is saved and given
out, or it cannot be saved. -/
theorem issue_cases (sys : Numbering.System) (t : Template)
    (place : desk.numbering.file = some file) (permitted : Permitted file)
    (written : ∃ text, (desk.advanced s).register.text = .ok text) :
    match Numbering.idText s (desk.numbering.register.last s + 1) t.typeTag with
    | .error f => (desk.issue sys t s).2 = .error (.fault f)
    | .ok id =>
      (((∀ step, sys.refuses step = false) ∧ Writable sys.marks desk.disk file) ∧
          (desk.issue sys t s).2 = .ok id) ∨
        (¬ ((∀ step, sys.refuses step = false) ∧ Writable sys.marks desk.disk file) ∧
          ∃ e, (desk.issue sys t s).2 = .error (t.unsaved id e)) := by
  obtain ⟨text, written⟩ := written
  rw [issue, issue_eq]
  cases Numbering.idText s (desk.numbering.register.last s + 1) t.typeTag with
  | error f => rfl
  | ok id =>
      have place' : (desk.advanced s).file = some file := place
      simp only [keep, place', Option.isNone_some, Bool.false_eq_true, if_false]
      generalize result : Numbering.writeFile sys desk.disk file text = after
      obtain ⟨d, outcome⟩ := after
      rw [Numbering.save_of_text (Option.none_or.trans place') written result,
        ← @Numbering.writeFile_eq_ok_iff sys desk.disk file text, result]
      cases outcome with
      | ok u => exact .inl ⟨rfl, rfl⟩
      | error e =>
          refine .inr ⟨by simp, ?_⟩
          have forbidden := Numbering.writeFile_ne_forbiddenName permitted result
          cases e <;> first | exact absurd rfl forbidden | exact ⟨_, rfl⟩

/-- The disk after a number has been given out is that before, or the file has been written on it,
or it has been tried. -/
theorem issue_disk (place : desk.numbering.file = some file) (t : Template) (s : Series) :
    (desk.issue sys t s).1.disk = desk.disk ∨ ∃ text,
      (desk.issue sys t s).1.disk = (Numbering.writeFile sys desk.disk file text).1 := by
  rw [issue, issue_eq]
  cases Numbering.idText s (desk.numbering.register.last s + 1) t.typeTag with
  | error f => exact .inl rfl
  | ok id =>
      have place' : (desk.advanced s).file = some file := place
      simp only [keep, place', Option.isNone_some, Bool.false_eq_true, if_false]
      generalize saved : (desk.advanced s).save sys none desk.disk = after
      obtain ⟨d, outcome⟩ := after
      rcases Numbering.save_cases (Option.none_or.trans place') saved with
        ⟨f, -, rfl, rfl⟩ | ⟨text, written, -, wrote, -⟩
      · exact .inl rfl
      · refine .inr ⟨text, ?_⟩
        rw [wrote]
        rcases outcome with e | u
        · cases e <;> rfl
        · rfl

/-! ## Attempts -/

theorem within_answer (place : desk.numbering.file = some file) (h : Within file base desk.disk)
    (c : Call) : Within file base (desk.answer c).1.disk := by
  cases taken : c.series? with
  | none =>
      generalize step : desk.answer c = after
      have spec := answer_spec step
      simp only [taken] at spec
      rwa [spec.1]
  | some s =>
      obtain ⟨store, steps⟩ := produce_of_series? taken
      rw [answer, steps]
      rcases issue_disk place c.template s with same | ⟨text, wrote⟩
      · rwa [same]
      · rw [wrote]
        exact h.writeFile _ text

theorem short_year_of_series? (h : c.series? = some s) : s.year.natAbs < Text.wholeLimit := by
  obtain ⟨store, args, -, -, found⟩ := Template.series?_eq_some_iff.1 h
  exact short_year found

/-- A desk whose register is steady for a series, and in whose file is a steady register too, with
the same last number of that series. -/
structure Keeps (file : Location) (k : Series) (room : Nat) (desk : Desk) : Prop where
  place : desk.numbering.file = some file
  steady : desk.numbering.register.Steady k room
  leads : Leads desk.disk file
  kept : ∃ q, Numbering.load desk.disk file = .ok q ∧ q.Steady k room ∧
    q.last k = desk.numbering.register.last k

theorem Keeps.mono {room' : Nat} (h : Keeps file k room desk) (less : room' ≤ room) :
    Keeps file k room' desk := by
  obtain ⟨q, loaded, steady, same⟩ := h.kept
  exact ⟨h.place, h.steady.mono less, h.leads, q, loaded, steady.mono less, same⟩

theorem Taken.steady (h : Taken desk t s desk' result)
    (steady : desk.numbering.register.Steady k (room + 1))
    (year : s.year.natAbs < Text.wholeLimit) (separate : Register.Separate k s) :
    desk'.numbering.register.Steady k room := by
  cases h with
  | withdrawn => exact (steady.restore year).mono (Nat.le_succ room)
  | unsaved => exact steady.bump year separate
  | unprinted => exact steady.bump year separate
  | issued => exact steady.bump year separate

/-- An attempt that loses no number of the series counts its document, if it gives one a number, and
the file knows. -/
theorem Keeps.answer (h : Keeps file k (room + 1) desk) (step : desk.answer c = (desk', result))
    (separate : ∀ s, c.series? = some s → Register.Separate k s)
    (unlost : (⟨c, result⟩ : Answered).loses k = false) :
    Keeps file k room desk' ∧ desk'.numbering.register.last k =
      desk.numbering.register.last k + countIssued [⟨c, result⟩] k := by
  have spec := answer_spec step
  cases taken : c.series? with
  | none =>
      simp only [taken] at spec
      obtain ⟨rfl, -⟩ := spec
      refine ⟨h.mono (Nat.le_succ room), ?_⟩
      simp [countIssued, Answered.issues, taken]
  | some s =>
      simp only [taken] at spec
      have lossless : countLost [⟨c, result⟩] k = 0 := by simp [countLost, unlost]
      have moved : desk'.numbering.register.last k =
          desk.numbering.register.last k + countIssued [⟨c, result⟩] k := by
        rw [spec.last_eq taken k, lossless]
        omega
      have steady := spec.steady h.steady (short_year_of_series? taken) (separate s taken)
      obtain ⟨leads, held⟩ := spec.load_eq h.place h.steady.sound h.leads
      refine ⟨⟨spec.file_eq.trans h.place, steady, leads, ?_⟩, moved⟩
      rcases held with ⟨same, none⟩ | ⟨loaded, -⟩
      · obtain ⟨q, loaded, before, value⟩ := h.kept
        refine ⟨q, same.trans loaded, before.mono (Nat.le_succ room), ?_⟩
        rw [value, moved]
        simp [countIssued, Answered.issues, none]
      · exact ⟨_, loaded, steady.reread, steady.last_reread⟩

/-- Results that are the same, but for the cause if a number could not be saved. -/
def Alike (a b : Except Failure Outcome) : Prop :=
  a = b ∨ ∃ (t : Template) (number : String) (e e' : Numbering.SaveError),
    a = .error (t.unsaved number e) ∧ b = .error (t.unsaved number e')

/-- Two desks with the same last number of a series give the same answer to an attempt at the next
one, provided that the file can be written on both disks or on neither. -/
theorem answer_alike (h : Keeps file k (room + 1) desk) (h' : Keeps file k (room + 1) other)
    (permitted : Permitted file)
    (same : other.numbering.register.last k = desk.numbering.register.last k)
    (writable : Writable c.system.marks other.disk file ↔ Writable c.system.marks desk.disk file)
    (taken : c.series? = some k) (separate : Register.Separate k k) :
    Alike (desk.answer c).2 (other.answer c).2 := by
  obtain ⟨store, steps⟩ := produce_of_series? taken
  have year := short_year_of_series? taken
  have cases₁ := issue_cases c.system c.template h.place permitted
    (h.steady.bump year separate).exists_text
  have cases₂ := issue_cases c.system c.template h'.place permitted
    (h'.steady.bump year separate).exists_text
  rw [same, writable] at cases₂
  rw [answer, answer, steps, steps]
  simp only
  cases text : Numbering.idText k (desk.numbering.register.last k + 1) c.template.typeTag with
  | error f =>
      rw [text] at cases₁ cases₂
      rw [cases₁, cases₂]
      exact .inl rfl
  | ok id =>
      rw [text] at cases₁ cases₂
      rcases cases₁ with ⟨can, issued⟩ | ⟨cannot, e, refused⟩
      · obtain ⟨-, issued'⟩ := cases₂.resolve_right fun wrong => wrong.1 can
        rw [issued, issued']
        exact .inl rfl
      · obtain ⟨-, e', refused'⟩ := cases₂.resolve_left fun wrong => cannot wrong.1
        rw [refused, refused']
        exact .inr ⟨c.template, id, e, e', rfl, rfl⟩

end Desk

end MinuteBook
