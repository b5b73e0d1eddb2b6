import MinuteBook.Proofs.Memo

/-!
# Accounting for numbers

Over a run of attempts every counter stands at its first value, plus the numbers that went to
documents, plus those that were lost (`Accounted`). For templates whose texts are texts, a number is
lost only for a whole number that is too long to be written; without such a loss, the numbers of a
series are given out one after another without a gap, and the file holds the last of them, provided
that the names of the entities are whole (`Accounted.faithful_iff`).
-/

namespace MinuteBook

open Disk (Leads Permitted)

/-- A template whose title, body and pattern of the file name are texts. -/
structure Template.Textual (t : Template) : Prop where
  title : ∃ text, t.title = .text text
  body : ∃ text, t.body = .text text
  fileName : ∃ text, t.fileNamePattern = .text text

theorem Template.Textual.longOnly_print {t : Template} (h : t.Textual) (s : Store)
    (number : Option String) : LongOnly (t.print s number) := by
  obtain ⟨title, htitle⟩ := h.title
  obtain ⟨body, hbody⟩ := h.body
  obtain ⟨fileName, hfileName⟩ := h.fileName
  unfold Template.print
  rw [htitle, hbody, hfileName]
  exact (Markup.longOnly_renderValue _ title _).bind fun _ =>
    (Markup.longOnly_renderValue _ body _).bind fun _ =>
      (FileName.longOnly_render fileName _).map _

theorem Template.Textual.longOnly_finish {t : Template} (h : t.Textual) (s : Store)
    (number : Option String) : LongOnly (t.finish s number) :=
  (h.longOnly_print s number).bind fun _ => (t.longOnly_note _ _).map _

theorem countIssued_append (h h' : List Answered) (s : Series) :
    countIssued (h ++ h') s = countIssued h s + countIssued h' s := List.countP_append

theorem countLost_append (h h' : List Answered) (s : Series) :
    countLost (h ++ h') s = countLost h s + countLost h' s := List.countP_append

/-- An attempt that gives no number to a document adds nothing to the numbers of documents. -/
theorem countIssued_append_of_none {a : Answered} (h : a.number? = none) (history : List Answered)
    (s : Series) : countIssued (history ++ [a]) s = countIssued history s := by
  simp [countIssued, Answered.issues, h]

namespace Desk

variable {desk desk' : Desk} {s : Series} {result : Except Failure Outcome} {c : Call}
  {file : Location} {start : Register} {history : List Answered}

/-- How the file holds a register after a history: as the file from before the first number of a
document, or as one that has been written for a number. -/
inductive Kept (file : Location) (history : List Answered) (disk : Disk) (q : Register) : Prop
  | untouched (loaded : Numbering.load disk file = .ok q)
      (unissued : ∀ s, countIssued history s = 0)
  | written (loaded : Numbering.load disk file = .ok q.reread)
      (numbered : ∃ s, countIssued history s + countLost history s ≠ 0)

/-- An attempt that numbers no document and leaves the file alone changes nothing of that. -/
theorem Kept.append {disk disk' : Disk} {q : Register} {a : Answered}
    (h : Kept file history disk q)
    (same : Numbering.load disk' file = Numbering.load disk file) (none : a.number? = none) :
    Kept file (history ++ [a]) disk' q := by
  cases h with
  | untouched loaded unissued =>
      refine .untouched (same.trans loaded) ?_
      intro s
      rw [countIssued_append_of_none none]
      exact unissued s
  | written loaded numbered =>
      obtain ⟨s, positive⟩ := numbered
      refine .written (same.trans loaded) ⟨s, ?_⟩
      rw [countIssued_append_of_none none, countLost_append]
      omega

/-- What holds of a desk after a history of attempts that started with a register: each counter
accounts for the history, and so does what is in the file, except for numbers that were lost. -/
structure Accounted (file : Location) (start : Register) (history : List Answered)
    (desk : Desk) : Prop where
  sound : desk.numbering.register.Sound
  place : desk.numbering.file = some file
  leads : Leads desk.disk file
  counters : ∀ s, desk.numbering.register.last s =
    start.last s + countIssued history s + countLost history s
  kept : ∃ q : Register, q.Sound ∧ Kept file history desk.disk q ∧
    ∀ s, q.last s ≤ desk.numbering.register.last s ∧
      desk.numbering.register.last s ≤ q.last s + countLost history s

theorem accounted_start {disk : Disk} {n : Numbering}
    (loaded : Numbering.ofFile disk file = .ok n) (leads : Leads disk file) :
    Accounted file n.register [] ⟨n, disk⟩ := by
  obtain ⟨r, held, h⟩ := bind_eq_ok.1 loaded
  obtain rfl := Except.ok.inj h
  have sound := Numbering.sound_of_load held
  refine ⟨sound, rfl, leads, fun s => ?_, r, sound, .untouched held fun _ => rfl, fun s => ?_⟩
  · simp [countIssued, countLost]
  · simp [countLost]

/-- An attempt keeps the account. -/
theorem Accounted.answer (h : Accounted file start history desk)
    (step : desk.answer c = (desk', result)) :
    Accounted file start (history ++ [⟨c, result⟩]) desk' := by
  have spec := answer_spec step
  obtain ⟨q, sound, kept, bounds⟩ := h.kept
  cases taken : c.series? with
  | none =>
      simp only [taken] at spec
      obtain ⟨rfl, none⟩ := spec
      have idle (s : Series) : countLost (history ++ [⟨c, result⟩]) s = countLost history s := by
        simp [countLost, Answered.loses, taken]
      refine ⟨h.sound, h.place, h.leads, fun s => ?_, q, sound, kept.append rfl none, fun s => ?_⟩
      · rw [countIssued_append_of_none none, idle s]
        exact h.counters s
      · rw [idle s]
        exact bounds s
  | some s =>
      simp only [taken] at spec
      obtain ⟨leads, held⟩ := spec.load_eq h.place h.sound h.leads
      have moved := spec.last_eq taken
      have sound' := spec.sound h.sound
      refine ⟨sound', spec.file_eq.trans h.place, leads, fun u => ?_, ?_⟩
      · rw [countIssued_append, countLost_append, moved u, h.counters u]
        omega
      · rcases held with ⟨same, none⟩ | ⟨loaded, given⟩
        · refine ⟨q, sound, kept.append same none, fun u => ?_⟩
          have idle : countIssued [⟨c, result⟩] u = 0 := countIssued_append_of_none none [] u
          have := moved u
          have := bounds u
          rw [countLost_append]
          omega
        · refine ⟨desk'.numbering.register, sound', .written loaded ⟨s, ?_⟩, fun u => ?_⟩
          · have := moved s
            rw [countIssued_append, countLost_append]
            omega
          · omega

/-- The counters count documents alone, and the file has the same counters, exactly if no number
was lost and every name that stands in a written file is whole. -/
theorem Accounted.faithful_iff (h : Accounted file start history desk) :
    ((∀ s, desk.numbering.register.last s = start.last s + countIssued history s) ∧
      ∃ r, Numbering.load desk.disk file = .ok r ∧
        ∀ s, r.last s = desk.numbering.register.last s) ↔
    (∀ s, countLost history s = 0) ∧ ((∀ s, countIssued history s = 0) ∨
      ∀ s, desk.numbering.register.last s ≠ 0 → Text.Whole s.entity) := by
  have lossless (s : Series) :
      desk.numbering.register.last s = start.last s + countIssued history s ↔
        countLost history s = 0 := by
    have := h.counters s
    omega
  rw [forall_congr' lossless]
  apply and_congr_right
  intro none
  obtain ⟨q, sound, kept, bounds⟩ := h.kept
  have same (s : Series) : q.last s = desk.numbering.register.last s := by
    have := bounds s
    have := none s
    omega
  cases kept with
  | untouched loaded unissued => exact iff_of_true ⟨q, loaded, same⟩ (.inl unissued)
  | written loaded numbered =>
      have issued : ¬ ∀ s, countIssued history s = 0 := by
        intro unissued
        obtain ⟨s, positive⟩ := numbered
        exact positive (by rw [unissued s, none s])
      rw [or_iff_right issued]
      simp only [loaded, Except.ok.injEq, exists_eq_left', ← same]
      exact Register.last_reread_iff sound

/-- The number of a document is the next one by the account. -/
theorem Accounted.number {id : String} (h : Accounted file start history desk)
    (step : desk.answer c = (desk', result)) (taken : c.series? = some s)
    (carried : (⟨c, result⟩ : Answered).number? = some id) :
    Numbering.idText s (start.last s + countIssued history s + countLost history s + 1)
      c.template.typeTag = .ok id := by
  have spec := answer_spec step
  simp only [taken] at spec
  cases spec with
  | withdrawn => exact absurd carried (by simp [Answered.number?])
  | unsaved => exact absurd carried (by simp [Answered.number?])
  | unprinted => exact absurd carried (by simp [Answered.number?])
  | issued _ text number =>
      have same := number.symm.trans carried
      obtain rfl := Option.some.inj same
      rw [h.counters s] at text
      exact text

/-- A number of a template that is all text is lost only because a number is too long. -/
theorem Taken.tooManyDigits {f : Fault} {t : Template}
    (h : Taken desk t s desk' (.error (.fault f))) (textual : t.Textual)
    (place : desk.numbering.file = some file) (permitted : Permitted file) :
    f = .tooManyDigits := by
  cases h with
  | withdrawn _ failed =>
      have saving := congrArg Failure.saveError? failed
      rw [Template.saveError?_unsaved] at saving
      exact absurd saving (by simp [Failure.saveError?])
  | unsaved _ cause =>
      rcases cause with long | ⟨-, other, place', forbidden⟩
      · exact long
      · obtain rfl := Option.some.inj (place.symm.trans place')
        exact absurd permitted forbidden
  | unprinted _ store number cause => exact textual.longOnly_finish store (some number) f cause

/-- What a whole run of attempts leaves behind, and what each of its attempts gave. -/
theorem Accounted.run {calls : List Call} {later : List Answered}
    (h : Accounted file start history desk)
    (runs : Desk.run file desk (calls.map .call) = (desk', later)) :
    Accounted file start (history ++ later) desk' ∧
      (∀ before a after, later = before ++ a :: after → ∀ s id, a.call.series? = some s →
        a.number? = some id → Numbering.idText s (start.last s +
          countIssued (history ++ before) s + countLost (history ++ before) s + 1)
            a.call.template.typeTag = .ok id) ∧
      (Permitted file → (∀ c ∈ calls, c.template.Textual) → ∀ a ∈ later, ∀ s,
        a.loses s = true → a.result = .error (.fault .tooManyDigits)) := by
  induction calls generalizing desk history later with
  | nil =>
      obtain ⟨rfl, rfl⟩ := Prod.mk.inj runs
      refine ⟨by rwa [List.append_nil], fun before a after split => ?_, by simp⟩
      exact absurd split (by simp)
  | cons c calls ih =>
      obtain ⟨next, result, answers, step, rest, rfl⟩ := run_call runs
      obtain ⟨account, numbers, losses⟩ := ih (h.answer step) rest
      refine ⟨by simpa using account, fun before a after split s id taken carried => ?_,
        fun permitted textual a member s lost => ?_⟩
      · cases before with
        | nil =>
            obtain ⟨rfl, -⟩ := List.cons.inj split
            simpa using h.number step taken carried
        | cons b before =>
            obtain ⟨rfl, rest⟩ := List.cons.inj split
            simpa using numbers before a after rest s id taken carried
      · rw [List.forall_mem_cons] at textual
        rcases List.mem_cons.1 member with rfl | later
        · simp only [Answered.loses, Bool.and_eq_true, decide_eq_true_eq] at lost
          have spec := answer_spec step
          simp only [lost.1] at spec
          cases result with
          | ok outcome => exact absurd lost.2 (by simp)
          | error e =>
              cases e with
              | notSaved cause => exact absurd lost.2 (by simp [Failure.saveError?])
              | unnoted cause f => exact absurd lost.2 (by simp [Failure.saveError?])
              | fault f => rw [spec.tooManyDigits textual.1 h.place permitted]
        · exact losses permitted textual.2 a later s lost

end Desk

/-- The account of a run of attempts on a register that has been loaded from its file. Each counter
is the sum of its first value, of the numbers that documents carry, and of the numbers that were
lost; each document carries the number that is next by that sum; and a number is lost only for a
whole number that is too long to be written. So the counters count documents alone, in memory and in
the file, exactly if no number was lost and every name that stands in a written file is whole. -/
theorem numbers_accounted {disk : Disk} {file : Location} {start : Numbering} {calls : List Call}
    {desk : Desk} {history : List Answered}
    (loaded : Numbering.ofFile disk file = .ok start) (leads : Leads disk file)
    (permitted : Permitted file) (textual : ∀ c ∈ calls, c.template.Textual)
    (runs : Desk.run file ⟨start, disk⟩ (calls.map .call) = (desk, history)) :
    (∀ s, desk.numbering.register.last s =
      start.register.last s + countIssued history s + countLost history s) ∧
    (∀ before a after, history = before ++ a :: after → ∀ s id, a.call.series? = some s →
      a.number? = some id → Numbering.idText s (start.register.last s + countIssued before s +
        countLost before s + 1) a.call.template.typeTag = .ok id) ∧
    (∀ a ∈ history, ∀ s, a.loses s = true → a.result = .error (.fault .tooManyDigits)) ∧
    ((∀ s, desk.numbering.register.last s = start.register.last s + countIssued history s) ∧
        (∃ r, Numbering.load desk.disk file = .ok r ∧
          ∀ s, r.last s = desk.numbering.register.last s) ↔
      (∀ s, countLost history s = 0) ∧ ((∀ s, countIssued history s = 0) ∨
        ∀ s, desk.numbering.register.last s ≠ 0 → Text.Whole s.entity)) := by
  obtain ⟨account, numbers, losses⟩ := (Desk.accounted_start loaded leads).run runs
  exact ⟨account.counters, numbers, losses permitted textual, account.faithful_iff⟩

/-- A memo whose title is too long to be printed loses the first number of its series, and the next
memo has the second. -/
theorem number_lost_to_title :
    let calls := [Memo.call "\x7b\x7bn\x7d\x7d" "A" [(.text "n", .int Text.wholeLimit)],
      Memo.call "" "A" []]
    let (desk, history) := Desk.run ["r"] ⟨⟨.empty, some ["r"]⟩, .empty⟩ (calls.map .call)
    countIssued history ⟨"A", 2025⟩ = 1 ∧ desk.numbering.register.last ⟨"A", 2025⟩ = 2 := by
  intro calls
  have textual : ∀ c ∈ calls, c.template.Textual := by
    intro c member
    rcases List.mem_cons.1 member with rfl | later
    · exact ⟨⟨_, rfl⟩, ⟨_, rfl⟩, ⟨_, rfl⟩⟩
    · obtain rfl := List.mem_singleton.1 later
      exact ⟨⟨_, rfl⟩, ⟨_, rfl⟩, ⟨_, rfl⟩⟩
  have leads : Leads .empty ["r"] := .inr ⟨by decide, by simp [Disk.get?, Disk.empty]⟩
  have permitted : Permitted ["r"] := by
    simp [Permitted]
  have issued : countIssued (Desk.run ["r"] ⟨⟨.empty, some ["r"]⟩, .empty⟩ (calls.map .call)).2
      ⟨"A", 2025⟩ = 1 := by decide +kernel
  have lost : countLost (Desk.run ["r"] ⟨⟨.empty, some ["r"]⟩, .empty⟩ (calls.map .call)).2
      ⟨"A", 2025⟩ = 1 := by decide +kernel
  have loaded : Numbering.ofFile .empty ["r"] = .ok ⟨.empty, some ["r"]⟩ := rfl
  generalize ran : Desk.run ["r"] ⟨⟨.empty, some ["r"]⟩, .empty⟩ (calls.map .call) = after at *
  obtain ⟨desk, history⟩ := after
  have account := (numbers_accounted loaded leads permitted textual ran).1 ⟨"A", 2025⟩
  refine ⟨issued, ?_⟩
  rw [account, issued, lost]
  rfl

end MinuteBook
