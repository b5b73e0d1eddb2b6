import MinuteBook.Document
import MinuteBook.Proofs.Saving

/-!
# What a save leaves behind

A save is done as a whole or not at all (`save_all_or_nothing`). If it is done, the file holds the
register, and nothing else has changed but that folders which were missing on the way to the file
are there; if it is not done, these folders are all that is new. The register that is saved stays as
it is.
-/

namespace MinuteBook

open Location (lead)

/-- A place is spared if it is as it was, or has become a folder that was missing on a path. -/
def Disk.Spared (path : Location) (d d' : Disk) (place : Location) : Prop :=
  d'.get? place = d.get? place ∨
    d.get? place = none ∧ d'.get? place = some .folder ∧ path.Passes place

namespace Numbering

variable {sys : System} {d d' : Disk} {file : Location} {text : String}

theorem spared_makeFolders (sys : System) (d : Disk) (file place : Location) :
    Disk.Spared file.parent d (makeFolders sys d file).1 place := by
  by_cases passed : file.parent.Passes place
  · rcases moreFolders_makeFolders sys d file place with same | ⟨free, folder⟩
    · exact .inl same
    · exact .inr ⟨free, folder, passed⟩
  · apply Or.inl
    rw [makeFolders]
    split
    · exact Disk.get?_makeFolders d _ fun sooner => passed sooner.of_take
    · exact Disk.get?_makeFolders d _ passed

/-- Writing a file spares every other place, and that of the file too if it fails. -/
theorem spared_writeFile {result : Except Disk.Error Unit} {place : Location}
    (h : writeFile sys d file text = (d', result))
    (elsewhere : result = .ok () → place ≠ lead file) : Disk.Spared file.parent d d' place := by
  have folders := spared_makeFolders sys d file place
  cases writes h with
  | given_up same =>
      rw [Disk.Spared, same]
      exact folders
  | done _ _ _ written =>
      rw [Disk.Spared, written, if_neg (elsewhere rfl)]
      exact folders

end Numbering

namespace Desk

/-- Saves the register of a desk to a file, by default its own. -/
def save (sys : Numbering.System) (desk : Desk) (file : Option Location) :
    Desk × Except Numbering.SaveError Unit :=
  let (disk, result) := desk.numbering.save sys file desk.disk
  ({ desk with disk }, result)

/-- A save is all or nothing. If it is done, no step was refused, the file holds the text of the
register, and every other place is spared; if it fails, every place is spared. -/
theorem save_all_or_nothing (sys : Numbering.System) (desk : Desk) (other : Option Location) :
    let (after, result) := desk.save sys other
    after.numbering = desk.numbering ∧
      match result with
      | .ok () => (∀ step, sys.refuses step = false) ∧
          ∃ file text, other.or desk.numbering.file = some file ∧
            desk.numbering.register.text = .ok text ∧
            after.disk.resolve file = .ok (lead file) ∧
            after.disk.get? (lead file) = some (.file text.toUTF8) ∧
            ∀ place, place ≠ lead file → Disk.Spared file.parent desk.disk after.disk place
      | .error _ => (other.or desk.numbering.file = none → after = desk) ∧
          ∀ file, other.or desk.numbering.file = some file →
            ∀ place, Disk.Spared file.parent desk.disk after.disk place := by
  rw [save]
  cases chosen : other.or desk.numbering.file with
  | none =>
      rw [Numbering.save, chosen]
      exact ⟨rfl, fun _ => rfl, fun file absent => absurd absent (by simp)⟩
  | some file =>
      cases written : desk.numbering.register.text with
      | error f =>
          rw [Numbering.save, chosen]
          simp only [written]
          exact ⟨trivial, fun absent => absurd absent (by simp), fun _ _ place => .inl rfl⟩
      | ok text =>
          generalize result : Numbering.writeFile sys desk.disk file text = after
          obtain ⟨d', outcome⟩ := after
          rw [Numbering.save_of_text chosen written result]
          cases outcome with
          | error e =>
              refine ⟨rfl, fun absent => absurd absent (by simp), ?_⟩
              intro file' same place
              obtain rfl := Option.some.inj same
              exact Numbering.spared_writeFile result (by simp)
          | ok u =>
              obtain ⟨place, found, held⟩ := Disk.read_eq_ok_iff.1 (Numbering.read_writeFile result)
              obtain rfl := (Disk.resolve_eq_ok_iff_open.1 found).2.2
              have allowed : ∀ step, sys.refuses step = false := by
                cases Numbering.writes result with
                | done allowed => exact allowed
              refine ⟨rfl, allowed, file, text, rfl, rfl, found, held, ?_⟩
              intro other elsewhere
              exact Numbering.spared_writeFile result fun _ => elsewhere

end Desk

end MinuteBook
