import MinuteBook.Proofs.Register.Written
import MinuteBook.Proofs.Writing

/-!
# Saving and loading a register

A register that has a text is saved by writing it (`save_cases`), which either reaches the file
(`read_writeFile`) or leaves every file alone, but for new folders (`moreFolders_writeFile`). After
a save, loading the file gives the register as its written form is read back (`load_text`). What is
loaded is sound, whatever stands in the file.
-/

namespace MinuteBook

namespace Numbering

open Disk (MoreFolders Permitted)

variable {sys : System} {d d' : Disk} {file folder : Location} {text name : String}

/-! ## Saving -/

/-- What comes of saving a register to a file: it has no text, or its text is written. -/
theorem save_cases {n : Numbering} {other : Option Location} {result : Except SaveError Unit}
    (chosen : other.or n.file = some file) (h : n.save sys other d = (d', result)) :
    (∃ f, n.register.text = .error f ∧ d' = d ∧ result = .error (.fault f)) ∨
      ∃ text outcome, n.register.text = .ok text ∧
        writeFile sys d file text = (d', outcome) ∧
          result = outcome.mapError (.ofDisk file) := by
  rw [save, chosen] at h
  simp only at h
  split at h
  · rename_i f unwritten
    obtain ⟨rfl, rfl⟩ := Prod.mk.inj h
    exact .inl ⟨f, unwritten, rfl, rfl⟩
  · rename_i text written
    obtain ⟨rfl, rfl⟩ := Prod.mk.inj h
    exact .inr ⟨text, _, written, rfl, rfl⟩

/-- A register with a text is saved by writing that text. -/
theorem save_of_text {n : Numbering} {other : Option Location} {result : Except Disk.Error Unit}
    (chosen : other.or n.file = some file) (written : n.register.text = .ok text)
    (h : writeFile sys d file text = (d', result)) :
    n.save sys other d = (d', result.mapError (.ofDisk file)) := by
  rw [save, chosen]
  simp only [written, h]

/-- After a save the file holds the text of the register. -/
theorem read_of_save {n : Numbering} {other : Option Location} (place : other.or n.file = some file)
    (h : n.save sys other d = (d', .ok ())) :
    ∃ text, n.register.text = .ok text ∧ d'.read file = .ok text.toUTF8 := by
  rcases save_cases place h with ⟨f, -, -, failed⟩ | ⟨text, outcome, written, wrote, done⟩
  · exact absurd failed (by simp)
  · cases outcome with
    | error e => exact absurd done (by simp [Except.mapError])
    | ok u => exact ⟨text, written, read_writeFile wrote⟩

/-! ## Loading -/

theorem load_of_read (same : ∀ content, d'.read file = .ok content ↔ d.read file = .ok content) :
    load d' file = load d file := by
  unfold load
  cases before : d.read file with
  | error e =>
      cases after : d'.read file with
      | error e' => rfl
      | ok content => rw [(same content).1 after] at before; exact absurd before (by simp)
  | ok content => rw [(same content).2 before]

theorem sound_of_load {r : Register} (h : load d file = .ok r) : r.Sound := by
  unfold load at h
  split at h
  · obtain rfl := Except.ok.inj h
    exact Register.sound_empty
  · split at h
    · obtain rfl := Except.ok.inj h
      exact Register.sound_empty
    · split at h
      · rename_i read
        obtain rfl := Except.ok.inj h
        exact Register.sound_of_ofValue read
      · exact absurd h (by simp)
      · obtain rfl := Except.ok.inj h
        exact Register.sound_empty

theorem normalLines_of_no_return {cs : List Char} (h : '\r' ∉ cs) : Disk.normalLines cs = cs := by
  fun_induction Disk.normalLines cs with
  | case1 => rfl
  | case2 => simp at h
  | case3 => simp at h
  | case4 c r _ _ ih =>
      rw [List.mem_cons, not_or] at h
      rw [ih h.2]

/-- A text without carriage returns is decoded as it was written. -/
theorem decode_toUTF8 (h : '\r' ∉ text.toList) : Disk.decode text.toUTF8 = some text := by
  have valid : String.fromUTF8? text.toUTF8 = some text := by
    unfold String.fromUTF8?
    exact dif_pos text.isValidUTF8
  rw [Disk.decode, valid, Option.map_some, normalLines_of_no_return h, String.ofList_toList]

/-- What is loaded from a file that holds the text of a register. -/
theorem load_text {r : Register} (sound : r.Sound) (written : r.text = .ok text)
    (held : d.read file = .ok text.toUTF8) : load d file = .ok r.reread := by
  unfold load
  simp only [held, decode_toUTF8 (Register.no_return_text written), Option.bind_some,
    Register.read_text written, Register.ofValue_writtenValue sound]

end Numbering

end MinuteBook
