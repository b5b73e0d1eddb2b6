import MinuteBook.Proofs.Memo

/-!
# Attempts that fail

An attempt that fails should leave no trace: the register agrees with what it was, and every file
holds what it held. Here it is said exactly when that is so. A number that could not be saved is
taken back, whether or not that can be noted, which restores every register but one in which the
counter stood at zero; after any other fault the number stays given out, because nothing takes it
back.
-/

namespace MinuteBook

open Disk (MoreFolders Leads)

namespace Desk

variable {sys : Numbering.System} {desk desk' : Desk} {entities : Option Entities}
  {today : Date} {t : Template} {answers : Record}

/-- Nothing is different afterwards: the register holds the same counters, every file has the same
content, and every path that can be followed reads as before. -/
structure Untraced (before after : Desk) : Prop where
  register : after.numbering.register.agrees before.numbering.register = true
  files : ∀ place content, after.disk.get? place = some (.file content) ↔
    before.disk.get? place = some (.file content)
  texts : ∀ path, before.disk.Leads path → ∀ content,
    after.disk.read path = .ok content ↔ before.disk.read path = .ok content

/-- New folders are no trace. -/
theorem untraced_of_moreFolders {n : Numbering} {d : Disk} (more : MoreFolders desk.disk d)
    (register : n.register.agrees desk.numbering.register = true) : Untraced desk ⟨n, d⟩ :=
  ⟨register, fun _ _ => more.get?_file_iff, fun _ leads _ => leads.read_iff more⟩

/-- A number that stays given out is a trace. -/
theorem traced_of_advanced (s : Series) (d : Disk) : ¬ Untraced desk ⟨desk.advanced s, d⟩ := by
  intro h
  have differ := Register.not_agrees_bump desk.numbering.register s
  exact absurd (differ.symm.trans h.register) Bool.false_ne_true

/-- A failed attempt leaves no trace exactly if it has taken no number, or could not save the number
and took it back, where the counter of the series did not stand at zero. -/
theorem untraced_iff {e : Failure} (sound : desk.numbering.register.Sound)
    (failed : desk.produce sys entities today t answers = (desk', .error e)) :
    Untraced desk desk' ↔ ∀ s, t.series? entities today answers = some s →
      e.saveError?.isSome = true ∧ desk.numbering.register.get? s ≠ some 0 := by
  have spec := produce_spec failed
  cases taken : t.series? entities today answers with
  | none =>
      simp only [taken] at spec
      obtain ⟨rfl, -⟩ := spec
      constructor
      · intro _ s none
        exact absurd none (by simp)
      · intro _
        exact untraced_of_moreFolders (.refl desk'.disk) sound.agrees_self
  | some s =>
      simp only [taken] at spec
      cases spec with
      | withdrawn more cause =>
          constructor
          · rintro h _ ⟨⟩
            refine ⟨by simp [cause], ?_⟩
            intro zero
            have differ := Register.not_agrees_restore_bump zero
            exact absurd (differ.symm.trans h.register) Bool.false_ne_true
          · intro h
            apply untraced_of_moreFolders more
            rw [withdrawn, Register.restore_bump (h s rfl).2]
            exact sound.agrees_self
      | unsaved =>
          constructor
          · intro h
            exact absurd h (traced_of_advanced s _)
          · intro h
            exact absurd (h s rfl).1 (by simp [Failure.saveError?])
      | unprinted =>
          constructor
          · intro h
            exact absurd h (traced_of_advanced s _)
          · intro h
            exact absurd (h s rfl).1 (by simp [Failure.saveError?])

/-- A title that is no text loses the number of the document, which has been given out before. -/
theorem traced_by_title :
    let before : Desk := ⟨⟨.empty, none⟩, .empty⟩
    let after : Desk := ⟨⟨⟨[(⟨"A", 2025⟩, 1)]⟩, none⟩, .empty⟩
    before.produce Numbering.System.willing none Memo.newYear (Memo.template (.int 5))
        (Memo.answers "A") = (after, .error (.fault .notTemplateText)) ∧
      ¬ Untraced before after := by
  intro before after
  have failed : before.produce Numbering.System.willing none Memo.newYear (Memo.template (.int 5))
      (Memo.answers "A") = (after, .error (.fault .notTemplateText)) := by
    decide +kernel
  refine ⟨failed, fun untraced => ?_⟩
  have taken := (untraced_iff Register.sound_empty failed).1 untraced ⟨"A", 2025⟩
    (Memo.series?_eq _ _ _)
  exact absurd taken.1 (by simp [Failure.saveError?])

end Desk

end MinuteBook
