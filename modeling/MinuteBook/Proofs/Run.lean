import MinuteBook.Proofs.Attempt

/-!
# Runs

A run is a sequence of attempts at documents and of restarts, in which the register is read from its
file again. Its history lists the attempts with their results, from which it can be counted how many
numbers of a series went to documents and how many were lost. What one attempt does to the counters
is `Taken.last_eq`; what it does to the file is `Taken.load_eq`.
-/

namespace MinuteBook

open Disk (MoreFolders Leads Permitted)

/-- An attempt at a document, with all that it depends on but the desk. -/
structure Call where
  system : Numbering.System
  entities : Option Entities
  today : Date
  template : Template
  answers : Record

/-- The series from which an attempt takes a number. -/
def Call.series? (c : Call) : Option Series := c.template.series? c.entities c.today c.answers

/-- An attempt with what it gave. -/
structure Answered where
  call : Call
  result : Except Failure Outcome

namespace Answered

/-- The number that the attempt gave to a document. -/
def number? (a : Answered) : Option String :=
  match a.result with
  | .ok (.produced document) => document.number
  | _ => none

/-- Says whether the attempt gave a number of a series to a document. -/
def issues (a : Answered) (s : Series) : Bool :=
  decide (a.call.series? = some s) && a.number?.isSome

/-- Says whether the attempt took a number of a series and failed without taking it back. -/
def loses (a : Answered) (s : Series) : Bool :=
  decide (a.call.series? = some s) && match a.result with
    | .error e => e.saveError?.isNone
    | .ok _ => false

end Answered

/-- How many numbers of a series have gone to documents. -/
def countIssued (history : List Answered) (s : Series) : Nat := history.countP fun a => a.issues s

/-- How many numbers of a series have been lost. -/
def countLost (history : List Answered) (s : Series) : Nat := history.countP fun a => a.loses s

inductive Event where
  | call (c : Call)
  | restart

namespace Desk

def answer (desk : Desk) (c : Call) : Desk × Except Failure Outcome :=
  desk.produce c.system c.entities c.today c.template c.answers

/-- Starts again with the register in the file. If it cannot be read, nothing is started. -/
def restart (file : Location) (desk : Desk) : Desk :=
  match Numbering.ofFile desk.disk file with
  | .ok numbering => { desk with numbering }
  | .error _ => desk

/-- The desk after a run, and the history of the run. -/
def run (file : Location) (desk : Desk) : List Event → Desk × List Answered
  | [] => (desk, [])
  | .restart :: events => run file (desk.restart file) events
  | .call c :: events =>
    let (next, result) := desk.answer c
    let (last, later) := run file next events
    (last, ⟨c, result⟩ :: later)

variable {desk desk' : Desk} {t : Template} {s : Series} {result : Except Failure Outcome}
  {c : Call} {file : Location}

/-- The first call of a run, and the rest. -/
theorem run_call {events : List Event} {history : List Answered}
    (h : run file desk (.call c :: events) = (desk', history)) :
    ∃ next result later, desk.answer c = (next, result) ∧
      run file next events = (desk', later) ∧ history = ⟨c, result⟩ :: later := by
  rw [run] at h
  generalize step : desk.answer c = answered at h
  obtain ⟨next, result⟩ := answered
  simp only at h
  generalize rest : run file next events = ran at h
  obtain ⟨last, later⟩ := ran
  obtain ⟨rfl, rfl⟩ := Prod.mk.inj h
  exact ⟨next, result, later, rfl, rest, rfl⟩

theorem answer_spec (h : desk.answer c = (desk', result)) :
    match c.series? with
    | none => desk' = desk ∧ (⟨c, result⟩ : Answered).number? = none
    | some s => Taken desk c.template s desk' result := by
  have spec := produce_spec h
  unfold Call.series?
  generalize c.template.series? c.entities c.today c.answers = series at spec ⊢
  cases series with
  | none =>
      refine ⟨spec.1, ?_⟩
      unfold Answered.number?
      split
      · rename_i document produced
        exact spec.2 document produced
      · rfl
  | some s => exact spec

/-! ## What one attempt does -/

theorem Taken.file_eq (h : Taken desk t s desk' result) :
    desk'.numbering.file = desk.numbering.file := by
  cases h <;> rfl

theorem Taken.sound (h : Taken desk t s desk' result) (sound : desk.numbering.register.Sound) :
    desk'.numbering.register.Sound := by
  cases h with
  | withdrawn => exact (sound.bump s).restore s (sound.last_nonneg s)
  | unsaved => exact sound.bump s
  | unprinted => exact sound.bump s
  | issued => exact sound.bump s

/-- A counter moves by one for a number that is given out and not taken back. -/
theorem Taken.last_eq (h : Taken desk c.template s desk' result) (taken : c.series? = some s)
    (u : Series) :
    desk'.numbering.register.last u = desk.numbering.register.last u +
      countIssued [⟨c, result⟩] u + countLost [⟨c, result⟩] u := by
  simp only [countIssued, countLost, List.countP_singleton, Answered.issues, Answered.loses, taken,
    Option.some.injEq]
  by_cases same : s = u
  · subst same
    cases h with
    | withdrawn more failed =>
        simp [Answered.number?, Desk.withdrawn, Register.last_restore_bump, failed]
    | unsaved => simp [Answered.number?, advanced, Failure.saveError?]
    | unprinted => simp [Answered.number?, advanced, Failure.saveError?]
    | issued _ _ carried => simp [Answered.number?, advanced, carried]
  · have other : ¬ u = s := fun h => same h.symm
    cases h with
    | withdrawn => simp [Desk.withdrawn, Register.last_restore_bump, same]
    | unsaved => simp [advanced, Register.last_bump, same, other]
    | unprinted => simp [advanced, Register.last_bump, same, other]
    | issued => simp [advanced, Register.last_bump, same, other]

/-- What has been saved is loaded. -/
theorem load_of_saved {n : Numbering} {before after : Disk} (saved : n.SavedTo before after)
    (place : n.file = some file) (sound : n.register.Sound) :
    Numbering.load after file = .ok n.register.reread ∧ Leads after file := by
  rw [Numbering.SavedTo, place] at saved
  obtain ⟨text, written, held⟩ := saved
  obtain ⟨at_file, found, -⟩ := Disk.read_eq_ok_iff.1 held
  exact ⟨Numbering.load_text sound written held, .inl ⟨at_file, found⟩⟩

/-- After an attempt the file holds what it held before, and then no number has gone to a document;
or it holds the register of the desk, and then the number stays given out. -/
theorem Taken.load_eq (h : Taken desk c.template s desk' result)
    (place : desk.numbering.file = some file) (sound : desk.numbering.register.Sound)
    (leads : Leads desk.disk file) :
    Leads desk'.disk file ∧
      (Numbering.load desk'.disk file = Numbering.load desk.disk file ∧
          (⟨c, result⟩ : Answered).number? = none ∨
        Numbering.load desk'.disk file = .ok desk'.numbering.register.reread ∧
          desk'.numbering.register.last s = desk.numbering.register.last s + 1) := by
  have given : (desk.advanced s).register.last s = desk.numbering.register.last s + 1 :=
    Register.last_bump_self _ _
  cases h with
  | withdrawn more =>
      have same := Numbering.load_of_read fun _ => leads.read_iff more
      exact ⟨leads.moreFolders more, .inl ⟨same, rfl⟩⟩
  | unsaved more =>
      have same := Numbering.load_of_read fun _ => leads.read_iff more
      exact ⟨leads.moreFolders more, .inl ⟨same, rfl⟩⟩
  | unprinted saved =>
      obtain ⟨held, leads'⟩ := load_of_saved saved place (sound.bump s)
      exact ⟨leads', .inr ⟨held, given⟩⟩
  | issued saved =>
      obtain ⟨held, leads'⟩ := load_of_saved saved place (sound.bump s)
      exact ⟨leads', .inr ⟨held, given⟩⟩

end Desk

end MinuteBook
