import MinuteBook.Proofs.Memo
import MinuteBook.Proofs.NumberText

/-!
# No number is given twice

Once a document carries a number of a series, the register in memory and the one in the file both
know of it (`Known`), and neither an attempt nor a restart makes them forget, so every later number
of the series is greater; and different numbers have different texts. This takes a name that is
whole. The halves in a name that is not whole are put together when the file is read, so the counter
comes back under another name, and after a restart the series begins anew: for every such name
there is a run that gives one number to two documents.
-/

namespace MinuteBook

open Disk (Leads)

/-- The mark of numbers does not occur in the tag of the template. -/
def Call.Unmarked (c : Call) : Prop :=
  ∀ t, c.template.typeTag.display = .ok t → Numbering.Unmarked t.toList

theorem Call.year_nonneg {c : Call} {s : Series} (h : c.series? = some s) : 0 ≤ s.year := by
  obtain ⟨store, args, -, -, found⟩ := Template.series?_eq_some_iff.1 h
  obtain ⟨entity, -, found⟩ := bind_eq_ok.1 found
  obtain ⟨date, -, found⟩ := bind_eq_ok.1 found
  obtain rfl := Except.ok.inj found
  exact Int.natCast_nonneg _

namespace Desk

variable {desk desk' : Desk} {s : Series} {result : Except Failure Outcome} {c : Call}
  {file : Location} {events : List Event} {history : List Answered} {k : Int} {id : String}

/-- A desk with a sound register and the given file. -/
structure Ready (file : Location) (desk : Desk) : Prop where
  sound : desk.numbering.register.Sound
  place : desk.numbering.file = some file

/-- A desk that knows of a number of a series, in memory and in its file. -/
structure Known (file : Location) (s : Series) (k : Int) (desk : Desk) : Prop
    extends Ready file desk where
  leads : Leads desk.disk file
  held : k ≤ desk.numbering.register.last s
  kept : ∃ r, Numbering.load desk.disk file = .ok r ∧ k ≤ r.last s

theorem ready_of_ofFile {disk : Disk} {n : Numbering}
    (loaded : Numbering.ofFile disk file = .ok n) : Ready file ⟨n, disk⟩ := by
  obtain ⟨r, held, h⟩ := bind_eq_ok.1 loaded
  obtain rfl := Except.ok.inj h
  exact ⟨Numbering.sound_of_load held, rfl⟩

/-! ## One step -/

theorem Ready.restart (h : Ready file desk) : Ready file (desk.restart file) := by
  unfold Desk.restart
  split
  · rename_i loaded
    exact ready_of_ofFile loaded
  · exact h

theorem Ready.answer (h : Ready file desk) (step : desk.answer c = (desk', result)) :
    Ready file desk' := by
  have spec := answer_spec step
  split at spec
  · obtain ⟨rfl, -⟩ := spec
    exact h
  · exact ⟨spec.sound h.sound, spec.file_eq.trans h.place⟩

theorem Known.restart (h : Known file s k desk) : Known file s k (desk.restart file) := by
  obtain ⟨r, loaded, enough⟩ := h.kept
  have again : desk.restart file = ⟨⟨r, some file⟩, desk.disk⟩ := by
    rw [Desk.restart, Numbering.ofFile, loaded]
    rfl
  have ready := h.toReady.restart
  rw [again] at ready ⊢
  exact ⟨ready, h.leads, enough, r, loaded, enough⟩

theorem Known.answer (h : Known file s k desk) (whole : Text.Whole s.entity)
    (step : desk.answer c = (desk', result)) : Known file s k desk' := by
  have ready := h.toReady.answer step
  have spec := answer_spec step
  cases taken : c.series? with
  | none =>
      simp only [taken] at spec
      obtain ⟨rfl, -⟩ := spec
      exact h
  | some u =>
      simp only [taken] at spec
      obtain ⟨leads, held⟩ := spec.load_eq h.place h.sound h.leads
      have grown : k ≤ desk'.numbering.register.last s := by
        have := spec.last_eq taken s
        have := h.held
        omega
      refine ⟨ready, leads, grown, ?_⟩
      rcases held with ⟨same, -⟩ | ⟨held, -⟩
      · rw [same]
        exact h.kept
      · exact ⟨_, held, Int.le_trans grown (Register.last_le_last_reread ready.sound whole)⟩

/-- The number of a document is positive, and afterwards it is known. -/
theorem Ready.number (h : Ready file desk) (step : desk.answer c = (desk', result))
    (carried : (⟨c, result⟩ : Answered).number? = some id) :
    ∃ s n, c.series? = some s ∧ 1 ≤ n ∧ desk.numbering.register.last s + 1 = n ∧
      Numbering.idText s n c.template.typeTag = .ok id ∧
      (Text.Whole s.entity → Known file s n desk') := by
  have ready := h.answer step
  have spec := answer_spec step
  cases taken : c.series? with
  | none =>
      simp only [taken] at spec
      exact absurd (spec.2.symm.trans carried) (by simp)
  | some s =>
      simp only [taken] at spec
      have positive := h.sound.last_nonneg s
      refine ⟨s, _, rfl, by omega, rfl, ?_⟩
      cases spec with
      | withdrawn => exact absurd carried (by simp [Answered.number?])
      | unsaved => exact absurd carried (by simp [Answered.number?])
      | unprinted => exact absurd carried (by simp [Answered.number?])
      | issued saved text number =>
          have same := number.symm.trans carried
          obtain rfl := Option.some.inj same
          refine ⟨text, fun whole => ?_⟩
          obtain ⟨loaded, leads⟩ := load_of_saved saved h.place ready.sound
          have held : (desk.advanced s).register.last s = desk.numbering.register.last s + 1 :=
            Register.last_bump_self _ _
          refine ⟨ready, leads, Int.le_of_eq held.symm, _, loaded, ?_⟩
          exact held ▸ Register.last_le_last_reread ready.sound whole

/-! ## Whole runs -/

theorem call_mem_of_run (runs : run file desk events = (desk', history)) :
    ∀ a ∈ history, .call a.call ∈ events := by
  induction events generalizing desk history with
  | nil =>
      obtain ⟨-, rfl⟩ := Prod.mk.inj runs
      simp
  | cons event events ih =>
      intro a member
      cases event with
      | restart => exact List.mem_cons_of_mem _ (ih runs a member)
      | call c =>
          obtain ⟨next, result, later, -, rest, rfl⟩ := run_call runs
          rcases List.mem_cons.1 member with rfl | member
          · exact List.mem_cons_self
          · exact List.mem_cons_of_mem _ (ih rest a member)

/-- Every number of a run is positive, and greater than what is known of its series before. -/
theorem Ready.numbers (h : Ready file desk) (runs : run file desk events = (desk', history)) :
    ∀ a ∈ history, ∀ id, a.number? = some id →
      ∃ s n, a.call.series? = some s ∧ 1 ≤ n ∧
        Numbering.idText s n a.call.template.typeTag = .ok id ∧
        ∀ k, Text.Whole s.entity → Known file s k desk → k < n := by
  induction events generalizing desk history with
  | nil =>
      obtain ⟨-, rfl⟩ := Prod.mk.inj runs
      simp
  | cons event events ih =>
      intro a member id carried
      cases event with
      | restart =>
          obtain ⟨s, n, taken, positive, text, above⟩ := ih h.restart runs a member id carried
          exact ⟨s, n, taken, positive, text, fun k whole known => above k whole known.restart⟩
      | call c =>
          obtain ⟨next, result, later, step, rest, rfl⟩ := run_call runs
          rcases List.mem_cons.1 member with rfl | member
          · obtain ⟨s, n, taken, positive, value, text, -⟩ := h.number step carried
            refine ⟨s, n, taken, positive, text, fun k _ known => ?_⟩
            have := known.held
            omega
          · obtain ⟨s, n, taken, positive, text, above⟩ :=
              ih (h.answer step) rest a member id carried
            exact ⟨s, n, taken, positive, text,
              fun k whole known => above k whole (known.answer whole step)⟩

/-- Two documents of a run carry the same number only if the name of their entity is not whole. -/
theorem Ready.distinct (h : Ready file desk) (runs : run file desk events = (desk', history))
    (unmarked : ∀ c, .call c ∈ events → c.Unmarked) :
    history.Pairwise fun a b => ∀ id, a.number? = some id → b.number? = some id →
      ∃ s, a.call.series? = some s ∧ ¬ Text.Whole s.entity := by
  induction events generalizing desk history with
  | nil =>
      obtain ⟨-, rfl⟩ := Prod.mk.inj runs
      exact List.Pairwise.nil
  | cons event events ih =>
      have unmarked' : ∀ c, .call c ∈ events → c.Unmarked := fun c member =>
        unmarked c (List.mem_cons_of_mem _ member)
      cases event with
      | restart => exact ih h.restart runs unmarked'
      | call c =>
          obtain ⟨next, result, later, step, rest, rfl⟩ := run_call runs
          refine List.Pairwise.cons ?_ (ih (h.answer step) rest unmarked')
          intro b member id carried carried'
          obtain ⟨s, m, taken, positive, -, text, known⟩ := h.number step carried
          refine ⟨s, taken, fun whole => ?_⟩
          obtain ⟨v, n, later, positive', text', above⟩ :=
            (h.answer step).numbers rest b member id carried'
          -- The same text is the same number of the same series, but the later one is greater.
          obtain ⟨rfl, rfl⟩ := Numbering.idText_injective (Call.year_nonneg taken)
            (Call.year_nonneg later) positive positive' (unmarked c List.mem_cons_self)
            (unmarked' b.call (call_mem_of_run rest b member)) text text'
          exact absurd (above m whole (known whole)) (Int.lt_irrefl m)

end Desk

/-! ## Names that are not whole -/

namespace Memo

theorem unmarked (title : Value) (entity : String) (more : Record) :
    (call title entity more).Unmarked := by
  intro t shown
  obtain rfl := Except.ok.inj shown
  rw [Numbering.Unmarked]
  decide

/-- Two memos about an entity, with a restart between them. -/
def twice (entity : String) : List Event :=
  [.call (call "" entity []), .restart, .call (call "" entity [])]

theorem eq_of_mem_twice {entity : String} {c : Call} (h : .call c ∈ twice entity) :
    c = call "" entity [] := by
  simpa [twice] using h

theorem unmarked_of_mem_twice {entity : String} {c : Call} (h : .call c ∈ twice entity) :
    c.Unmarked := by
  rw [eq_of_mem_twice h]
  exact unmarked _ _ _

theorem series?_of_mem_twice {entity : String} {c : Call} (h : .call c ∈ twice entity) :
    c.series? = some ⟨entity, newYear.year⟩ := by
  rw [eq_of_mem_twice h]
  exact series?_eq _ _ _

/-- If the name of the entity is not whole, the second memo has the number of the first. -/
theorem run_twice {entity : String} (halves : ¬ Text.Whole entity) :
    ∃ id desk first second, (⟨call "" entity [], first⟩ : Answered).number? = some id ∧
      (⟨call "" entity [], second⟩ : Answered).number? = some id ∧
      Desk.run file ⟨⟨.empty, some file⟩, .empty⟩ (twice entity) =
        (desk, [⟨call "" entity [], first⟩, ⟨call "" entity [], second⟩]) := by
  let s : Series := ⟨entity, newYear.year⟩
  let start : Desk := ⟨⟨.empty, some file⟩, .empty⟩
  have short : Register.Short (s, 1) := Register.short_of_lt (by decide) (by decide)
  obtain ⟨id, shown⟩ : ∃ id, Numbering.idText s 1 (.text "M") = .ok id := by
    rw [Numbering.idText, Value.wholeText_of_lt short.1]
    exact ⟨_, rfl⟩
  -- The first memo.
  have one : (start.advanced s).register = ⟨[(s, 1)]⟩ := rfl
  have sound : (start.advanced s).register.Sound := Register.sound_empty.bump s
  obtain ⟨text, written⟩ : ∃ text, (start.advanced s).register.text = .ok text :=
    Register.exists_text (by rw [one]; simpa using short)
  let saved : Disk := ⟨[(file, .file text.toUTF8)]⟩
  have first : start.answer (call "" entity []) =
      (⟨start.advanced s, saved⟩, .ok (.produced ⟨"", "", "", some id⟩)) :=
    answer_eq rfl (.inl rfl) written shown
  -- The restart.
  let r : Register := ⟨[(Register.rejoin s, 1)]⟩
  have back : (start.advanced s).register.reread = r := by
    rw [one, Register.reread, Register.rows, List.mergeSort_singleton]
    rfl
  have loaded : Numbering.load saved file = .ok r := by
    rw [← back]
    exact Numbering.load_text sound written rfl
  let again : Desk := ⟨⟨r, some file⟩, saved⟩
  have restarted : (⟨start.advanced s, saved⟩ : Desk).restart file = again := by
    rw [Desk.restart, Numbering.ofFile, loaded]
    rfl
  have other : Register.rejoin s ≠ s := by
    intro same
    exact halves ((Text.rejoined_eq_self_iff entity).1 (congrArg Series.entity same))
  have anew : r.last s = 0 := by
    simp [r, Register.last, Register.get?, List.lookup_cons, beq_eq_false_iff_ne.2 other.symm]
  -- The second memo.
  obtain ⟨text', written'⟩ : ∃ text, (again.advanced s).register.text = .ok text := by
    apply Register.exists_text
    intro c member
    rcases Keyed.mem_put member with rfl | old
    · rw [show again.numbering.register.last s = 0 from anew]
      exact short
    · obtain rfl := List.mem_singleton.1 old
      exact short
  have second : again.answer (call "" entity []) =
      (⟨again.advanced s, ⟨[(file, .file text'.toUTF8)]⟩⟩,
        .ok (.produced ⟨"", "", "", some id⟩)) :=
    answer_eq rfl (.inr ⟨_, rfl⟩) written' (by
      rw [show again.numbering.register.last s = 0 from anew]
      exact shown)
  let numbered : Except Failure Outcome := .ok (.produced ⟨"", "", "", some id⟩)
  let last : Desk := ⟨again.advanced s, ⟨[(file, .file text'.toUTF8)]⟩⟩
  refine ⟨id, last, numbered, numbered, rfl, rfl, ?_⟩
  change Desk.run file start (twice entity) = _
  simp only [twice, Desk.run, first, restarted, second]
  rfl

end Memo

/-- A document about an entity with one of the given names never carries a number that a later
document of the run carries too, whatever the run and wherever it is restarted, exactly if all these
names are whole. -/
theorem numbers_distinct (names : String → Prop) :
    (∀ disk file start events desk history, Numbering.ofFile disk file = .ok start →
      (∀ c, .call c ∈ events → c.Unmarked) →
      Desk.run file ⟨start, disk⟩ events = (desk, history) →
      history.Pairwise fun a b => (∀ s, a.call.series? = some s → names s.entity) →
        ∀ id, a.number? = some id → b.number? ≠ some id) ↔
    ∀ name, names name → Text.Whole name := by
  constructor
  · intro distinct name named
    by_contra halves
    obtain ⟨id, desk, first, second, carried, carried', runs⟩ := Memo.run_twice halves
    have apart := distinct .empty Memo.file ⟨.empty, some Memo.file⟩ (Memo.twice name) desk _ rfl
      (fun _ => Memo.unmarked_of_mem_twice) runs
    refine (List.pairwise_cons.1 apart).1 _ List.mem_cons_self ?_ id carried carried'
    intro s taken
    rw [Memo.series?_of_mem_twice List.mem_cons_self] at taken
    rw [← Option.some.inj taken]
    exact named
  · intro whole disk file start events desk history loaded unmarked runs
    apply ((Desk.ready_of_ofFile loaded).distinct runs unmarked).imp
    intro a b apart named id carried carried'
    obtain ⟨s, taken, halves⟩ := apart id carried carried'
    exact halves (whole s.entity (named s taken))

/-- Two memos about `A` carry different numbers, although there is a restart between them; two about
the two halves of a pair that are not one character carry the same. -/
theorem memo_numbers_distinct :
    let halves := String.ofList [Text.ofCodePoint 0xd83d, Text.ofCodePoint 0xde00]
    let history (name : String) :=
      (Desk.run Memo.file ⟨⟨.empty, some Memo.file⟩, .empty⟩ (Memo.twice name)).2
    ((history "A").Pairwise fun a b => ∀ id, a.number? = some id → b.number? ≠ some id) ∧
      ∃ a b id, history halves = [a, b] ∧ a.number? = some id ∧ b.number? = some id := by
  intro halves history
  constructor
  · have whole : ∀ name, name = "A" → Text.Whole name := by
      rintro _ rfl
      decide
    generalize ran : Desk.run Memo.file ⟨⟨.empty, some Memo.file⟩, .empty⟩ (Memo.twice "A") = after
    obtain ⟨desk, answered⟩ := after
    have apart := (numbers_distinct (· = "A")).2 whole .empty Memo.file ⟨.empty, some Memo.file⟩
      (Memo.twice "A") desk answered rfl (fun _ => Memo.unmarked_of_mem_twice) ran
    rw [show history "A" = answered from congrArg Prod.snd ran]
    apply apart.imp_of_mem
    intro a b member _ apart
    apply apart
    intro s taken
    rw [Memo.series?_of_mem_twice (Desk.call_mem_of_run ran a member)] at taken
    rw [← Option.some.inj taken]
  · have apart : ¬ Text.Whole halves := by
      rw [Text.Whole, String.toList_ofList]
      decide
    obtain ⟨id, desk, first, second, carried, carried', runs⟩ := Memo.run_twice apart
    exact ⟨_, _, id, congrArg Prod.snd runs, carried, carried'⟩

end MinuteBook
