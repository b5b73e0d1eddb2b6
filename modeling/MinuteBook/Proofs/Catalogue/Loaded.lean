import MinuteBook.Proofs.Catalogue.Defects
import MinuteBook.Proofs.OwnCounter

/-!
# What it means that a catalogue is loaded

A catalogue counts as loaded from the first load that ends well and finds template files, until it
is cleared. Loading itself forgets all templates, but not that the catalogue was loaded; so after
a load that fails it may still count as loaded, if it did before. But for that, a catalogue that
counts as loaded has a template for each template file that its folder had when it was loaded last
(`Catalogue.loaded_run_iff`).
-/

namespace MinuteBook

namespace Catalogue

variable {reader : DataFile.Reader} {d : Disk} {c : Catalogue} {folder : Option Location}

/-- The catalogue has a template under the id of each template in the files of its folder, and
there is one in each of them. -/
def Serves (reader : DataFile.Reader) (d : Disk) (c : Catalogue) : Prop :=
  ∀ name ∈ filesIn d c.folder, ∃ t, readFile reader d (c.folder ++ [name]) = .ok t ∧
    (c.find? t.id).isSome = true

/-! ## Loading -/

/-- There are no template files, or they are added without a defect, or an error ends it. -/
theorem fill_cases (reader : DataFile.Reader) (d : Disk) (c : Catalogue) :
    let added := addFiles reader d c (filesIn d c.folder)
    filesIn d c.folder = [] ∧ fill reader d c = (c, .ok ()) ∨
      filesIn d c.folder ≠ [] ∧ added.2 = .ok [] ∧
        fill reader d c = ({ added.1 with loaded := true }, .ok ()) ∨
      ∃ e, fill reader d c = (added.1, .error e) := by
  intro added
  unfold fill
  split
  · rename_i none
    exact .inl ⟨none, rfl⟩
  · rename_i some
    split
    · rename_i c' result
      exact .inr (.inl ⟨some, congrArg Prod.snd result,
        by rw [show added = (c', .ok []) from result]⟩)
    · rename_i result
      exact .inr (.inr ⟨_, by rw [show added = _ from result]⟩)
    · rename_i result
      exact .inr (.inr ⟨_, by rw [show added = _ from result]⟩)

theorem folder_fill (reader : DataFile.Reader) (d : Disk) (c : Catalogue) :
    (fill reader d c).1.folder = c.folder := by
  rcases fill_cases reader d c with ⟨-, result⟩ | ⟨-, -, result⟩ | ⟨e, result⟩
  · rw [result]
  · rw [result]
    exact folder_addFiles d c _
  · rw [result]
    exact folder_addFiles d c _

theorem loaded_fill_iff (reader : DataFile.Reader) (d : Disk) (c : Catalogue) :
    (fill reader d c).1.loaded = true ↔
      c.loaded = true ∨ (fill reader d c).2 = .ok () ∧ filesIn d c.folder ≠ [] := by
  rcases fill_cases reader d c with ⟨none, result⟩ | ⟨some, -, result⟩ | ⟨e, result⟩
  · simp [result, none]
  · simp [result, some]
  · simp [result, loaded_addFiles]

theorem serves_fill (h : (fill reader d c).2 = .ok ()) : Serves reader d (fill reader d c).1 := by
  rw [Serves, folder_fill]
  rcases fill_cases reader d c with ⟨none, -⟩ | ⟨-, fine, result⟩ | ⟨e, result⟩
  · rw [none]
    exact List.forall_mem_nil _
  · rw [result]
    exact find?_of_addFiles fine
  · rw [result] at h
    exact absurd h (by simp)

theorem folder_load (reader : DataFile.Reader) (d : Disk) (folder : Option Location)
    (c : Catalogue) :
    (c.load reader d folder).1.folder = folder.getD c.folder := by
  unfold load
  simp only
  split
  · rw [folder_fill]
  · rfl

/-- A load that ends well and finds template files sets the mark; no load takes it away. -/
theorem loaded_load_iff (reader : DataFile.Reader) (d : Disk) (folder : Option Location)
    (c : Catalogue) :
    (c.load reader d folder).1.loaded = true ↔ c.loaded = true ∨
      (c.load reader d folder).2 = .ok () ∧ filesIn d (c.load reader d folder).1.folder ≠ [] := by
  rw [folder_load]
  unfold load
  simp only
  split
  · rw [loaded_fill_iff]
  · simp

theorem serves_load (h : (c.load reader d folder).2 = .ok ()) :
    Serves reader d (c.load reader d folder).1 := by
  unfold load at h ⊢
  simp only at h ⊢
  split at h
  · exact serves_fill h
  · exact absurd h (by simp)

/-! ## Steps -/

/-- What may be done with a catalogue. A load finds the disk as it is at that time. -/
inductive Step where
  | load (d : Disk) (folder : Option Location)
  | reload (d : Disk)
  | clear
  | register (t : Template)

namespace Step

/-- The disk that the step loads from, if it loads. -/
def disk? : Step → Option Disk
  | .load d _ | .reload d => some d
  | .clear | .register _ => none

/-- The catalogue after the step. A template that cannot be registered changes nothing. -/
def take (reader : DataFile.Reader) (c : Catalogue) : Step → Catalogue
  | .load d folder => (c.load reader d folder).1
  | .reload d => (c.reload reader d).1
  | .clear => c.clear
  | .register t => (c.register t).toOption.getD c

/-- The step ends with an error. -/
def Fails (reader : DataFile.Reader) (c : Catalogue) : Step → Prop
  | .load d folder => (c.load reader d folder).2 ≠ .ok ()
  | .reload d => (c.reload reader d).2 ≠ .ok ()
  | .clear => False
  | .register t => c.register t = .error .notHashable

/-- The step is a load of a catalogue that counts as loaded already. -/
def Keeps (c : Catalogue) : Step → Prop
  | .load _ _ => c.loaded = true
  | .reload _ | .clear | .register _ => False

end Step

/-- A step that loads is a load, of a catalogue that has been cleared if it is a reload. -/
theorem Step.exists_load {x : Step} (loads : x.disk? = some d) (reader : DataFile.Reader)
    (c : Catalogue) :
    ∃ (start : Catalogue) (folder : Option Location),
      x.take reader c = (start.load reader d folder).1 ∧
      (x.Fails reader c ↔ (start.load reader d folder).2 ≠ .ok ()) ∧
      (x.Keeps c ↔ start.loaded = true) := by
  cases x with
  | load d' folder =>
      obtain rfl := Option.some.inj loads
      exact ⟨c, folder, rfl, Iff.rfl, Iff.rfl⟩
  | reload d' =>
      obtain rfl := Option.some.inj loads
      exact ⟨c.clear, none, rfl, Iff.rfl, by simp [Keeps, Catalogue.clear]⟩
  | clear => exact absurd loads (by simp [disk?])
  | register t => exact absurd loads (by simp [disk?])

theorem Step.loaded_take_iff {x : Step} (loads : x.disk? = some d) :
    (x.take reader c).loaded = true ↔
      x.Keeps c ∨ ¬ x.Fails reader c ∧ filesIn d (x.take reader c).folder ≠ [] := by
  obtain ⟨start, folder, state, fails, keeps⟩ := exists_load loads reader c
  rw [state, fails, keeps, not_not]
  exact loaded_load_iff reader d folder start

theorem Step.serves_take {x : Step} (loads : x.disk? = some d) (well : ¬ x.Fails reader c) :
    Serves reader d (x.take reader c) := by
  obtain ⟨start, folder, state, fails, -⟩ := exists_load loads reader c
  rw [state]
  exact serves_load (not_not.1 (mt fails.2 well))

/-- To register a template leaves the folder and the mark as they are. -/
theorem Step.take_register (reader : DataFile.Reader) (c : Catalogue) (t : Template) :
    ∃ templates, (Step.register t).take reader c = { c with templates } := by
  rw [take, Catalogue.register]
  split
  · exact ⟨_, rfl⟩
  · exact ⟨c.templates, rfl⟩

theorem Serves.register (h : c.Serves reader d) (t : Template) :
    ((Step.register t).take reader c).Serves reader d := by
  rw [Step.take, Catalogue.register]
  split
  · intro name listed
    obtain ⟨u, read, found⟩ := h name listed
    exact ⟨u, read, isSome_find?_iff.2 (ids_putIn (isSome_find?_iff.1 found))⟩
  · exact h

/-- The catalogue after steps in a row. -/
def run (reader : DataFile.Reader) (c : Catalogue) (steps : List Step) : Catalogue :=
  steps.foldl (Step.take reader) c

theorem run_concat (reader : DataFile.Reader) (c : Catalogue) (steps : List Step) (x : Step) :
    run reader c (steps ++ [x]) = x.take reader (run reader c steps) := by
  rw [run, List.foldl_append]
  rfl

theorem run_split (reader : DataFile.Reader) (c : Catalogue) (before after : List Step)
    (x : Step) : run reader c (before ++ x :: after) =
      run reader (x.take reader (run reader c before)) after := by
  rw [run, List.foldl_append, List.foldl_cons]
  rfl

/-- To choose an item of a list with another one at its end is to choose that one, or an item before
it. -/
theorem exists_split_concat_iff {α : Type} {xs : List α} {y : α}
    {P : List α → α → List α → Prop} :
    (∃ before x after, xs ++ [y] = before ++ x :: after ∧ P before x after) ↔
      P xs y [] ∨ ∃ before x after, xs = before ++ x :: after ∧ P before x (after ++ [y]) := by
  constructor
  · rintro ⟨before, x, after, same, h⟩
    induction after using List.reverseRecOn with
    | nil =>
        obtain ⟨rfl, last⟩ := List.append_inj' same rfl
        obtain rfl := List.head_eq_of_cons_eq last
        exact .inl h
    | append_singleton after z _ =>
        rw [← List.cons_append, ← List.append_assoc] at same
        obtain ⟨rfl, last⟩ := List.append_inj' same rfl
        obtain rfl := List.head_eq_of_cons_eq last
        exact .inr ⟨before, x, after, rfl, h⟩
  · rintro (h | ⟨before, x, after, rfl, h⟩)
    · exact ⟨xs, y, [], rfl, h⟩
    · exact ⟨before, x, after ++ [y], by simp, h⟩

/-- After a load that ended well, templates that are registered take nothing away. -/
theorem serves_run {before after : List Step} {x : Step} (loads : x.disk? = some d)
    (registered : ∀ y ∈ after, ∃ t, y = .register t)
    (well : ¬ x.Fails reader (run reader c before)) :
    Serves reader d (run reader c (before ++ x :: after)) := by
  rw [run_split]
  have first := Step.serves_take loads well
  generalize x.take reader (run reader c before) = start at first
  induction after generalizing start with
  | nil => exact first
  | cons y after ih =>
      rw [List.forall_mem_cons] at registered
      obtain ⟨⟨t, rfl⟩, registered⟩ := registered
      exact ih registered _ (first.register t)

/-- The mark is that of the last load, unless the catalogue was cleared since then. -/
theorem loaded_run (reader : DataFile.Reader) (folder : Location) (steps : List Step) :
    (run reader (empty folder) steps).loaded = true ↔
      ∃ before x after, steps = before ++ x :: after ∧ ∃ d, x.disk? = some d ∧
        (∀ y ∈ after, ∃ t, y = .register t) ∧
        (x.Keeps (run reader (empty folder) before) ∨
          ¬ x.Fails reader (run reader (empty folder) before) ∧
            filesIn d (run reader (empty folder) steps).folder ≠ []) := by
  induction steps using List.reverseRecOn with
  | nil => simp [run, empty]
  | append_singleton steps y ih =>
      rw [run_concat, exists_split_concat_iff]
      cases loads : y.disk? with
      | some d =>
          rw [Step.loaded_take_iff loads]
          constructor
          · exact fun h => .inl ⟨d, rfl, List.forall_mem_nil _, h⟩
          · rintro (⟨d', same, -, h⟩ | ⟨_, _, after, _, _, _, registered, _⟩)
            · obtain rfl := Option.some.inj same
              exact h
            · obtain ⟨t, rfl⟩ := registered y (by simp)
              exact absurd loads (by simp [Step.disk?])
      | none =>
          cases y with
          | load d folder => exact absurd loads (by simp [Step.disk?])
          | reload d => exact absurd loads (by simp [Step.disk?])
          | clear =>
              apply iff_of_false Bool.false_ne_true
              rintro (⟨d, none, -⟩ | ⟨_, _, after, _, _, _, registered, _⟩)
              · exact absurd none (by simp)
              · obtain ⟨t, registers⟩ := registered .clear (by simp)
                exact absurd registers (by simp)
          | register t =>
              obtain ⟨templates, state⟩ :=
                Step.take_register reader (run reader (empty folder) steps) t
              rw [state, ih]
              constructor
              · rintro ⟨before, x, after, same, d, from_disk, registered, h⟩
                exact .inr ⟨before, x, after, same, d, from_disk,
                  List.forall_mem_append.2 ⟨registered, by simp⟩, h⟩
              · rintro (⟨d, none, -⟩ | ⟨before, x, after, same, d, from_disk, registered, h⟩)
                · exact absurd none (by simp)
                · exact ⟨before, x, after, same, d, from_disk,
                    (List.forall_mem_append.1 registered).1, h⟩

/-- Whatever the reader of the files, a catalogue counts as loaded exactly if since its last load
there have only been templates registered, and that load either ended well or failed where the
catalogue counted as loaded before. If it ended well, the catalogue serves the files that its folder
had then. -/
theorem loaded_run_iff (reader : DataFile.Reader) (folder : Location) (steps : List Step) :
    (run reader (empty folder) steps).loaded = true ↔
      ∃ before x after d, steps = before ++ x :: after ∧ x.disk? = some d ∧
        (∀ y ∈ after, ∃ t, y = .register t) ∧
        (¬ x.Fails reader (run reader (empty folder) before) ∧
            (run reader (empty folder) steps).Serves reader d ∧
            (x.Keeps (run reader (empty folder) before) ∨
              filesIn d (run reader (empty folder) steps).folder ≠ []) ∨
          x.Fails reader (run reader (empty folder) before) ∧
            x.Keeps (run reader (empty folder) before)) := by
  rw [loaded_run]
  constructor
  · rintro ⟨before, x, after, rfl, d, loads, registered, h⟩
    refine ⟨before, x, after, d, rfl, loads, registered, ?_⟩
    by_cases fails : x.Fails reader (run reader (empty folder) before)
    · exact .inr ⟨fails, h.resolve_right fun well => well.1 fails⟩
    · exact .inl ⟨fails, serves_run loads registered fails, h.imp_right And.right⟩
  · rintro ⟨before, x, after, d, rfl, loads, registered, ⟨well, -, keeps | files⟩ | ⟨-, keeps⟩⟩
    · exact ⟨before, x, after, rfl, d, loads, registered, .inl keeps⟩
    · exact ⟨before, x, after, rfl, d, loads, registered, .inr ⟨well, files⟩⟩
    · exact ⟨before, x, after, rfl, d, loads, registered, .inl keeps⟩

/-- A folder with a template in YAML is loaded, then again when its file is empty: the catalogue
still counts as loaded. -/
theorem loaded_after_failed_load :
    let first : Step := .load (Memo.disk Memo.definition) (some ["d"])
    let second : Step := .load (Memo.disk "null") none
    second.Fails Yaml.reader (run Yaml.reader (empty ["d"]) [first]) ∧
      (run Yaml.reader (empty ["d"]) [first, second]).loaded = true := by
  intro first second
  have start : run Yaml.reader (empty ["d"]) [first] = Memo.serving.catalogue := by
    rw [run, List.foldl_cons, List.foldl_nil, Step.take, Memo.load_definition]
  have null : DataFile.read Yaml.reader (Memo.disk "null") ["d", "m.json"] = .ok .null :=
    DataFile.read_of_text rfl (by decide) (by decide +kernel)
  have empty : readFile Yaml.reader (Memo.disk "null") ["d", "m.json"] = .error .noDefinition := by
    rw [readFile, null]
    rfl
  have fails : second.Fails Yaml.reader (run Yaml.reader (.empty ["d"]) [first]) := by
    have here : (none : Option Location).getD Memo.serving.catalogue.folder = ["d"] := rfl
    have present : ∃ entry, (Memo.disk "null").find? ["d"] = .ok entry := ⟨some .folder, rfl⟩
    have added : addFile Yaml.reader (Memo.disk "null") ⟨[], ["d"], true⟩ "m.json" =
        (⟨[], ["d"], true⟩, some .noDefinition) := addFile_of_error empty
    have result : (Memo.serving.catalogue.load Yaml.reader (Memo.disk "null") none).2 =
        .error (.defects [("m.json", .noDefinition)]) := by
      rw [load_result here present, Memo.filesIn_disk]
      simp only [addFiles_cons, Memo.serving, added]
      rfl
    rw [start]
    change (Memo.serving.catalogue.load Yaml.reader (Memo.disk "null") none).2 ≠ .ok ()
    rw [result]
    simp
  refine ⟨fails, (loaded_run_iff Yaml.reader ["d"] [first, second]).2 ⟨[first], second, [],
    Memo.disk "null", rfl, rfl, List.forall_mem_nil _, .inr ⟨fails, ?_⟩⟩⟩
  rw [start]
  rfl

end Catalogue

end MinuteBook
