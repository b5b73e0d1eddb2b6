import MinuteBook.Proofs.Run

/-!
# A template with nothing but a number

A memo asks for a number of the entity that its answer `e` names, and prints no body and no file
name. Whatever the name of the entity, its number is the next of the series of that name.
-/

namespace MinuteBook

namespace Memo

/-- The path at which a memo finds the name of its entity. -/
def entityKey : String := "e"

/-- The field that asks for the number. -/
def numberField : Field where
  id := .text numberKey
  label := .text numberKey
  type := .text "computed"
  required := false
  minItems := .null
  options := []
  placeholder := .null
  help := .null
  hidden := true
  visibleIf := none
  requiredIf := none
  validation := none
  computation := some ⟨.text numberFunction, [(.text "entityIdPath", .text entityKey)]⟩

/-- A memo with a title. -/
def template (title : Value) : Template where
  id := "memo"
  name := "Memo"
  version := 1
  typeTag := "M"
  fileNamePattern := ""
  fields := [numberField]
  title := title
  body := ""

/-- The answers that name an entity. -/
def answers (entity : String) : Record := [(.text entityKey, .text entity)]

theorem review_eq (title : Value) (entity : String) :
    (template title).review none (answers entity) =
      .ok (⟨answers entity, (template title).metadata⟩, []) := by
  rfl

/-- The arguments of the number of a memo. -/
def numberArgs : Record := [(.text "entityIdPath", .text entityKey)]

theorem note_eq (title : Value) (before after : String) :
    (template title).note before after = .ok (before ++ "memo" ++ after) := rfl

theorem entityOf_eq (title : Value) (entity : String) (data : Record) :
    (template title).entityOf numberArgs ⟨answers entity, data⟩ = .ok entity := by
  have found : argument numberArgs "entityIdPath" ⟨answers entity, data⟩ =
      .ok (some (.text entity)) := rfl
  have shown : shownArgument numberArgs "entityIdPath" = .ok entityKey := rfl
  rw [Template.entityOf, found, ok_bind]
  simp only [Option.bind_some, Value.text?, Option.getD_some, shown, ok_bind, note_eq]
  split <;> rfl

theorem dayOf_eq (title : Value) (today : Date) (s : Store) :
    (template title).dayOf today numberArgs s = .ok today := by
  have found : argument numberArgs "datePath" s = .ok none := rfl
  rw [Template.dayOf, found, ok_bind]
  rfl

theorem seriesOf_eq (title : Value) (today : Date) (entity : String) (data : Record) :
    (template title).seriesOf today numberArgs ⟨answers entity, data⟩ =
      .ok ⟨entity, today.year⟩ := by
  rw [Template.seriesOf, entityOf_eq, dayOf_eq]
  rfl

theorem series?_eq (title : Value) (today : Date) (entity : String) :
    (template title).series? none today (answers entity) = some ⟨entity, today.year⟩ := by
  have args : (template title).numberArgs? = some numberArgs := rfl
  rw [Template.series?, review_eq, args]
  simp only [Option.bind_some, seriesOf_eq]
  rfl

/-- Without a title, nothing of a memo is printed but its number. -/
theorem print_eq (s : Store) (number : Option String) :
    (template "").print s number = .ok ⟨"", "", "", number⟩ := by
  have nodes : Markup.parse "" = [] := by decide +kernel
  have text (s : Store) : Markup.renderValue .builtin (.text "") s = .ok "" := by
    rw [Markup.renderValue, Markup.render, nodes]
    rfl
  have fileName (s : Store) : FileName.render (.text "") s = .ok "" := by
    have rest : FileName.expand s "".toList = .ok [] := by
      rw [FileName.expand]
      rfl
    rw [FileName.render, rest]
    rfl
  rw [Template.print]
  simp only [template, text, fileName]
  rfl

theorem finish_eq (s : Store) (number : Option String) :
    (template "").finish s number = .ok ⟨"", "", "", number⟩ := by
  rw [Template.finish, print_eq, ok_bind, note_eq]
  rfl

/-- New Year's Day of 2025. -/
def newYear : Date := ⟨2025, 1, 1, by decide⟩

/-- An attempt at a memo about an entity on that day, with further answers. -/
def call (title : Value) (entity : String) (more : Record) : Call :=
  ⟨.willing, none, newYear, template title, answers entity ++ more⟩

/-! ## Saving a memo -/

/-- The file in which memos are numbered. -/
def file : Location := ["r"]

/-- On a disk with nothing but that file, or with nothing, the file is written. -/
theorem writeFile_eq {d : Disk} (h : d = .empty ∨ ∃ content, d = ⟨[(file, .file content)]⟩)
    (text : String) : Numbering.writeFile .willing d file text =
      (⟨[(file, .file text.toUTF8)]⟩, .ok ()) := by
  have folder : Numbering.makeFolders .willing d file = (d, .ok []) := by
    have outer : d.makeFolder [] = .ok (d, []) := rfl
    have whole : d.makeFolders [] = (d, .ok []) := by
      rw [Disk.makeFolders, outer]
    exact whole
  unfold Numbering.writeFile
  rw [folder]
  rcases h with rfl | ⟨content, rfl⟩ <;> rfl

/-- A memo that can be saved has its number. -/
theorem answer_eq {desk : Desk} {entity text id : String} (place : desk.numbering.file = some file)
    (disk : desk.disk = .empty ∨ ∃ content, desk.disk = ⟨[(file, .file content)]⟩)
    (written : (desk.advanced ⟨entity, newYear.year⟩).register.text = .ok text)
    (shown : Numbering.idText ⟨entity, newYear.year⟩
      (desk.numbering.register.last ⟨entity, newYear.year⟩ + 1) (.text "M") = .ok id) :
    desk.answer (call "" entity []) =
      (⟨desk.advanced ⟨entity, newYear.year⟩, ⟨[(file, .file text.toUTF8)]⟩⟩,
        .ok (.produced ⟨"", "", "", some id⟩)) := by
  let s : Series := ⟨entity, newYear.year⟩
  let after : Disk := ⟨[(file, .file text.toUTF8)]⟩
  have place' : (desk.advanced s).file = some file := place
  have saved : (desk.advanced s).save .willing none desk.disk = (after, .ok ()) := by
    rw [Numbering.save, place']
    simp only [Option.none_or, s, written, writeFile_eq disk text]
    rfl
  have kept : Desk.keep .willing ⟨desk.advanced s, desk.disk⟩ (template "") s
      (desk.numbering.register.last s) id = (⟨desk.advanced s, after⟩, .ok ()) := by
    rw [Desk.keep]
    simp only [place', Option.isNone_some, Bool.false_eq_true, if_false, saved]
  have issued : desk.issue .willing (template "") s = (⟨desk.advanced s, after⟩, .ok id) := by
    rw [Desk.issue, Desk.issue_eq, show (template "").typeTag = .text "M" from rfl]
    simp only [s, shown]
    rw [kept]
    rfl
  have numbered : desk.number .willing newYear (template "")
      ⟨answers entity, (template "").metadata⟩ = (⟨desk.advanced s, after⟩, .ok (some id)) := by
    have args : (template "").numberArgs? = some numberArgs := rfl
    rw [Desk.number, args]
    simp only [seriesOf_eq]
    rw [issued]
    rfl
  have reviewed : (template "").review none (answers entity ++ []) =
      .ok (⟨answers entity, (template "").metadata⟩, []) := review_eq "" entity
  rw [Desk.answer, call, Desk.produce]
  simp only [reviewed, numbered, finish_eq]
  rfl

end Memo

end MinuteBook
