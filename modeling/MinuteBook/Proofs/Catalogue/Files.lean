import MinuteBook.Catalogue
import MinuteBook.Proofs.Attempts
import MinuteBook.Proofs.Value.Equality

/-!
# Adding the templates of files

What comes of adding template files to a catalogue, told file by file: each file is read on its own,
and makes no difference to the folder or to what has been added before it. So the defects of all
files are found (`Catalogue.mem_of_addFiles`), and if there are none, the catalogue has a template
for each file (`Catalogue.find?_of_addFiles`).
-/

namespace MinuteBook.Catalogue

variable {reader : DataFile.Reader} {d d' : Disk} {c : Catalogue} {t : Template} {id : Value}
  {path : Location} {name : String} {names : List String} {defect : Defect}
  {found : List (String × Defect)}

/-! ## Templates by id -/

theorem isSome_find?_iff :
    (c.find? id).isSome = true ↔ ∃ x ∈ c.templates, x.1.agrees id = true := by
  rw [find?, Option.isSome_map, List.find?_isSome]

theorem isSome_find?_of_append {more : List (Value × Template)}
    (h : (c.find? id).isSome = true) :
    (find? { c with templates := c.templates ++ more } id).isSome = true := by
  rw [isSome_find?_iff] at h ⊢
  obtain ⟨x, member, same⟩ := h
  exact ⟨x, List.mem_append_left more member, same⟩

/-- A template that is put in takes away no id. -/
theorem ids_putIn {templates : List (Value × Template)}
    (h : ∃ x ∈ templates, x.1.agrees id = true) :
    ∃ x ∈ putIn templates t, x.1.agrees id = true := by
  induction templates with
  | nil => exact absurd h (by simp)
  | cons x templates ih =>
      obtain ⟨key, u⟩ := x
      rw [putIn]
      split
      · simpa using h
      · rw [List.exists_mem_cons_iff] at h ⊢
        exact h.imp_right ih

/-! ## Names -/

theorem pairwise_mergeSort (names : List String) :
    (names.mergeSort fun a b => a ≤ b).Pairwise (· ≤ ·) := by
  refine (List.pairwise_mergeSort (fun a b c first second => ?_) (fun a b => ?_) names).imp
    of_decide_eq_true
  · exact decide_eq_true (String.le_trans (of_decide_eq_true first) (of_decide_eq_true second))
  · simpa using String.le_total a b

theorem pairwise_filesIn (d : Disk) (folder : Location) : (filesIn d folder).Pairwise (· ≤ ·) := by
  refine List.Pairwise.filter _ ?_
  rw [Disk.names]
  split
  · exact pairwise_mergeSort _
  · exact .nil

/-! ## A file -/

theorem readFile_congr (same : d'.read path = d.read path) :
    readFile reader d' path = readFile reader d path := by
  rw [readFile, readFile, DataFile.read, DataFile.read, same]

theorem read_of_readFile (h : readFile reader d path = .ok t) :
    ∃ content, d.read path = .ok content := by
  rw [readFile, DataFile.read] at h
  cases read : d.read path with
  | error e => simp [read] at h
  | ok content => exact ⟨content, rfl⟩

theorem addFile_of_ok (h : readFile reader d (c.folder ++ [name]) = .ok t) :
    addFile reader d c name = c.add t := by
  rw [addFile, h]

theorem addFile_of_error (h : readFile reader d (c.folder ++ [name]) = .error defect) :
    addFile reader d c name = (c, some defect) := by
  rw [addFile, h]

theorem folder_addFile (d : Disk) (c : Catalogue) (name : String) :
    (addFile reader d c name).1.folder = c.folder := by
  rw [addFile]
  split
  · rw [add]
    split <;> rfl
  · rfl

/-- A template that is added without a defect is there. -/
theorem isSome_find?_of_add (h : (c.add t).2 = none) :
    ((c.add t).1.find? t.id).isSome = true := by
  unfold add at h ⊢
  split at h
  · exact absurd h (by simp)
  · exact absurd h (by simp)
  · exact absurd h (by simp)
  · rw [isSome_find?_iff]
    exact ⟨_, List.mem_append_right _ List.mem_cons_self, t.id.agrees_self⟩
  · exact absurd h (by simp)

theorem isSome_find?_addFile (d : Disk) (name : String) (h : (c.find? id).isSome = true) :
    ((addFile reader d c name).1.find? id).isSome = true := by
  rw [addFile]
  split
  · rw [add]
    split
    · exact h
    · exact h
    · exact h
    · exact isSome_find?_of_append h
    · exact isSome_find?_of_append h
  · exact h

/-! ## Several files -/

theorem addFiles_cons (d : Disk) (c : Catalogue) (name : String) (names : List String) :
    addFiles reader d c (name :: names) = match (addFile reader d c name).2 with
      | none => addFiles reader d (addFile reader d c name).1 names
      | some defect =>
        if defect.isUnforeseen then ((addFile reader d c name).1, .error defect)
        else ((addFiles reader d (addFile reader d c name).1 names).1,
          (addFiles reader d (addFile reader d c name).1 names).2.map ((name, defect) :: ·)) := by
  rw [addFiles]
  generalize addFile reader d c name = after
  obtain ⟨c, _ | defect⟩ := after <;> rfl

theorem addFiles_congr
    (same : ∀ name ∈ names,
      readFile reader d' (c.folder ++ [name]) = readFile reader d (c.folder ++ [name])) :
    addFiles reader d' c names = addFiles reader d c names := by
  induction names generalizing c with
  | nil => rfl
  | cons name names ih =>
      rw [List.forall_mem_cons] at same
      have first : addFile reader d' c name = addFile reader d c name := by
        rw [addFile, addFile, same.1]
      have rest : addFiles reader d' (addFile reader d c name).1 names =
          addFiles reader d (addFile reader d c name).1 names :=
        ih (by rw [folder_addFile]; exact same.2)
      rw [addFiles_cons, addFiles_cons, first, rest]

/-- Whether a catalogue counts as loaded makes no difference to what is added. -/
theorem addFiles_loaded (d : Disk) (c : Catalogue) (names : List String) (loaded : Bool) :
    addFiles reader d { c with loaded } names =
      ({ (addFiles reader d c names).1 with loaded }, (addFiles reader d c names).2) := by
  induction names generalizing c with
  | nil => rfl
  | cons name names ih =>
      have first : addFile reader d { c with loaded } name =
          ({ (addFile reader d c name).1 with loaded }, (addFile reader d c name).2) := by
        rw [addFile, addFile]
        simp only
        cases readFile reader d (c.folder ++ [name]) with
        | error defect => rfl
        | ok t =>
            simp only [add, get, find?]
            split <;> simp_all
      rw [addFiles_cons, addFiles_cons, first]
      simp only [ih]
      cases (addFile reader d c name).2 with
      | none => rfl
      | some defect =>
          simp only
          split <;> rfl

theorem loaded_addFiles (d : Disk) (c : Catalogue) (names : List String) :
    (addFiles reader d c names).1.loaded = c.loaded :=
  congrArg (fun x => x.1.loaded) (addFiles_loaded d c names c.loaded)

/-- What every file preserves, all files do. -/
theorem addFiles_invariant {P : Catalogue → Prop} (first : P c)
    (step : ∀ c name, P c → P (addFile reader d c name).1) : P (addFiles reader d c names).1 := by
  induction names generalizing c with
  | nil => exact first
  | cons name names ih =>
      have next := step c name first
      rw [addFiles_cons]
      cases (addFile reader d c name).2 with
      | none => exact ih next
      | some defect =>
          simp only
          split
          · exact next
          · exact ih next

theorem folder_addFiles (d : Disk) (c : Catalogue) (names : List String) :
    (addFiles reader d c names).1.folder = c.folder :=
  addFiles_invariant (P := fun c' => c'.folder = c.folder) rfl
    fun c' name same => (folder_addFile d c' name).trans same

/-- Where adding files does not end at once, the defect of every file is found. -/
theorem mem_of_addFiles (h : (addFiles reader d c names).2 = .ok found) :
    ∀ name ∈ names, ∀ defect, readFile reader d (c.folder ++ [name]) = .error defect →
      (name, defect) ∈ found := by
  induction names generalizing c found with
  | nil => simp
  | cons name names ih =>
      rw [addFiles_cons] at h
      rw [List.forall_mem_cons]
      cases added : (addFile reader d c name).2 with
      | none =>
          rw [added] at h
          have later := ih h
          rw [folder_addFile] at later
          refine ⟨fun x read => ?_, later⟩
          rw [addFile_of_error read] at added
          exact absurd added (by simp)
      | some x =>
          rw [added] at h
          simp only at h
          split at h
          · exact absurd h (by simp)
          · cases rest : (addFiles reader d (addFile reader d c name).1 names).2 with
            | error y =>
                rw [rest] at h
                exact absurd h (by simp [Except.map])
            | ok others =>
                rw [rest] at h
                obtain rfl := Except.ok.inj h
                have later := ih rest
                rw [folder_addFile] at later
                refine ⟨fun y read => ?_, fun other member y read =>
                  List.mem_cons_of_mem _ (later other member y read)⟩
                rw [addFile_of_error read] at added
                rw [Option.some.inj added]
                exact List.mem_cons_self

/-- Without defects, each file has been added without one. -/
theorem added_of_addFiles (h : (addFiles reader d c (name :: names)).2 = .ok []) :
    (addFile reader d c name).2 = none := by
  rw [addFiles_cons] at h
  cases added : (addFile reader d c name).2 with
  | none => rfl
  | some defect =>
      rw [added] at h
      simp only at h
      split at h
      · exact absurd h (by simp)
      · cases rest : (addFiles reader d (addFile reader d c name).1 names).2 <;>
          simp [rest, Except.map] at h

/-- Without defects, there is a template for each file. -/
theorem find?_of_addFiles (h : (addFiles reader d c names).2 = .ok []) :
    ∀ name ∈ names, ∃ t, readFile reader d (c.folder ++ [name]) = .ok t ∧
      ((addFiles reader d c names).1.find? t.id).isSome = true := by
  induction names generalizing c with
  | nil => simp
  | cons name names ih =>
      have added := added_of_addFiles h
      rw [addFiles_cons, added] at h ⊢
      have later := ih h
      rw [folder_addFile] at later
      rw [List.forall_mem_cons]
      refine ⟨?_, later⟩
      cases read : readFile reader d (c.folder ++ [name]) with
      | error defect =>
          rw [addFile_of_error read] at added
          exact absurd added (by simp)
      | ok t =>
          rw [addFile_of_ok read] at added ⊢
          exact ⟨t, rfl, addFiles_invariant (P := fun c' => (c'.find? t.id).isSome = true)
            (isSome_find?_of_add added) fun c' name' => isSome_find?_addFile d name'⟩

end MinuteBook.Catalogue
