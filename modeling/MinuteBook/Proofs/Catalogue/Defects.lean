import MinuteBook.Proofs.Catalogue.Files
import MinuteBook.Proofs.Form.Reading
import MinuteBook.Proofs.Saving
import MinuteBook.Yaml.Reader

/-!
# Defects of template files

Loading a folder goes through its template files and reports the defects of all of them, unless it
comes upon a file that `Derails` it: one over which the reader comes to grief, or with a misshapen
definition. There it ends at once, and nothing is reported but the one defect that it does not
foresee (`Catalogue.load_of_readable`). All this holds for any reader.
-/

namespace MinuteBook

theorem DataFile.read_ne_disk {reader : Reader} {d : Disk} {path : Location} {content : ByteArray}
    (readable : d.read path = .ok content) (e : Disk.Error) :
    read reader d path ≠ .error (.disk e) := by
  rw [read, readable]
  simp only
  split
  · simp
  · rw [ne_eq, mapError_eq_error]
    simp

/-- The data in a file with a text that has no carriage return. -/
theorem DataFile.read_of_text {reader : Reader} {d : Disk} {path : Location} {text : String}
    {v : Value} (content : d.read path = .ok text.toUTF8) (lines : '\r' ∉ text.toList)
    (data : reader text = .ok v) : read reader d path = .ok v := by
  rw [read, content]
  simp only [Numbering.decode_toUTF8 lines, data]
  rfl

namespace Catalogue

variable {reader : DataFile.Reader} {d : Disk} {c : Catalogue} {folder : Option Location}
  {path : Location} {t : Template} {name : String} {names : List String} {defect : Defect}
  {found : List (String × Defect)}

/-! ## A file -/

/-- A defect that loading does not look out for. -/
def Defect.IsStray (x : Defect) : Prop := x.isUnforeseen = true

instance : DecidablePred Defect.IsStray := fun x =>
  inferInstanceAs (Decidable (x.isUnforeseen = true))

/-- A file at which loading ends at once: the reader comes to grief over it with an error that is
looked out for nowhere or only of the disk, or it holds a misshapen definition. -/
def Derails (reader : DataFile.Reader) (d : Disk) (path : Location) : Prop :=
  (∃ e : Foreign, DataFile.read reader d path = .error (.refused (.failed e)) ∧
      (e.family = .system ∨ e.family = .other)) ∨
    ∃ v, DataFile.read reader d path = .ok v ∧ v.isPresent = true ∧ Template.Misshapen v

theorem derails_iff (readable : ∃ content, d.read path = .ok content) :
    Derails reader d path ↔ FailsWith Defect.IsStray (readFile reader d path) := by
  obtain ⟨content, readable⟩ := readable
  rw [Derails, readFile]
  cases read : DataFile.read reader d path with
  | ok v =>
      simp only [reduceCtorEq, false_and, exists_false, false_or, Except.ok.injEq, exists_eq_left']
      by_cases present : v.isPresent = true
      · rw [if_pos present, failsWith_mapError, and_iff_right present]
        exact (Template.strays_parse_iff v).symm
      · rw [if_neg present, failsWith_error_iff, iff_false_left (mt And.left present)]
        exact Bool.false_ne_true
  | error e =>
      simp only [Except.error.injEq, reduceCtorEq, false_and, exists_false, or_false,
        failsWith_error_iff]
      cases e with
      | disk e => exact absurd read (DataFile.read_ne_disk readable e)
      | notText => exact iff_of_false (by simp) Bool.false_ne_true
      | refused e =>
          cases e with
          | malformed text => exact iff_of_false (by simp) Bool.false_ne_true
          | failed e => simp [Defect.IsStray, Defect.isUnforeseen]

/-- What is wrong with a template that has been read, loading looks out for. -/
theorem not_stray_add (h : (c.add t).2 = some defect) : ¬ defect.IsStray := by
  have long {f : Fault} (failed : t.id.display = .error f) : ¬ (Defect.ofFault f).IsStray := by
    rw [Value.longOnly_display _ f failed]
    decide
  unfold add get at h
  split at h
  · rename_i failed
    split at failed
    · exact absurd failed (by simp)
    · obtain rfl := Except.error.inj failed
      obtain rfl := Option.some.inj h
      decide
  · obtain rfl := Option.some.inj h
    exact Bool.false_ne_true
  · rename_i failed
    obtain rfl := Option.some.inj h
    exact long failed
  · exact absurd h (by simp)
  · rename_i failed
    obtain rfl := Option.some.inj h
    exact long failed

/-- A stray defect is that of the file. -/
theorem readFile_of_stray (h : (addFile reader d c name).2 = some defect) (stray : defect.IsStray) :
    readFile reader d (c.folder ++ [name]) = .error defect := by
  cases read : readFile reader d (c.folder ++ [name]) with
  | ok t =>
      rw [addFile_of_ok read] at h
      exact absurd stray (not_stray_add h)
  | error x =>
      rw [addFile_of_error read] at h
      rw [Option.some.inj h]

/-! ## The files of a folder -/

theorem addFiles_cons_of_stray (h : readFile reader d (c.folder ++ [name]) = .error defect)
    (stray : defect.IsStray) : (addFiles reader d c (name :: names)).2 = .error defect := by
  have unforeseen : defect.isUnforeseen = true := stray
  rw [addFiles_cons, addFile_of_error h]
  simp only [unforeseen, if_true]

/-- A file without a stray defect does not end the adding of files. -/
theorem addFiles_cons_eq_error_iff
    (h : ¬ FailsWith Defect.IsStray (readFile reader d (c.folder ++ [name]))) :
    (addFiles reader d c (name :: names)).2 = .error defect ↔
      (addFiles reader d (addFile reader d c name).1 names).2 = .error defect := by
  rw [addFiles_cons]
  cases added : (addFile reader d c name).2 with
  | none => exact Iff.rfl
  | some x =>
      have foreseen : ¬ x.isUnforeseen = true := fun stray =>
        h ⟨x, readFile_of_stray added stray, stray⟩
      simp only
      rw [if_neg foreseen]
      cases (addFiles reader d (addFile reader d c name).1 names).2 <;> simp [Except.map]

/-- Adding files ends at once with the first file that has a stray defect. -/
theorem addFiles_eq_error_iff : (addFiles reader d c names).2 = .error defect ↔
    ∃ before name after, names = before ++ name :: after ∧
      (∀ earlier ∈ before, ¬ FailsWith Defect.IsStray (readFile reader d (c.folder ++ [earlier]))) ∧
      readFile reader d (c.folder ++ [name]) = .error defect ∧ defect.IsStray := by
  induction names generalizing c with
  | nil => simp [addFiles]
  | cons name names ih =>
      by_cases first : FailsWith Defect.IsStray (readFile reader d (c.folder ++ [name]))
      · obtain ⟨x, read, stray⟩ := first
        rw [addFiles_cons_of_stray read stray]
        constructor
        · intro h
          obtain rfl := Except.error.inj h
          exact ⟨[], name, names, rfl, List.forall_mem_nil _, read, stray⟩
        · rintro ⟨before, name', after, same, fine, read', -⟩
          cases before with
          | nil =>
              obtain ⟨rfl, -⟩ := List.cons.inj same
              rw [Except.error.inj (read.symm.trans read')]
          | cons earlier before =>
              obtain ⟨rfl, -⟩ := List.cons.inj same
              exact absurd ⟨x, read, stray⟩ (fine name List.mem_cons_self)
      · have later := ih (c := (addFile reader d c name).1)
        rw [folder_addFile] at later
        rw [addFiles_cons_eq_error_iff first, later]
        constructor
        · rintro ⟨before, name', after, rfl, fine, read⟩
          exact ⟨name :: before, name', after, rfl, List.forall_mem_cons.2 ⟨first, fine⟩, read⟩
        · rintro ⟨before, name', after, same, fine, read, stray⟩
          cases before with
          | nil =>
              obtain ⟨rfl, -⟩ := List.cons.inj same
              exact absurd ⟨defect, read, stray⟩ first
          | cons earlier before =>
              obtain ⟨rfl, rfl⟩ := List.cons.inj same
              exact ⟨before, name', after, rfl, (List.forall_mem_cons.1 fine).2, read, stray⟩

/-- Where adding files does not end at once, no file has a stray defect. -/
theorem not_stray_of_addFiles (h : (addFiles reader d c names).2 = .ok found) :
    ∀ name ∈ names, ¬ FailsWith Defect.IsStray (readFile reader d (c.folder ++ [name])) := by
  induction names generalizing c found with
  | nil => simp
  | cons name names ih =>
      have first : ¬ FailsWith Defect.IsStray (readFile reader d (c.folder ++ [name])) := by
        rintro ⟨x, read, stray⟩
        exact absurd ((addFiles_cons_of_stray read stray).symm.trans h) (by simp)
      rw [List.forall_mem_cons]
      refine ⟨first, ?_⟩
      cases rest : (addFiles reader d (addFile reader d c name).1 names).2 with
      | error x => exact absurd (((addFiles_cons_eq_error_iff first).2 rest).symm.trans h) (by simp)
      | ok others =>
          have later := ih rest
          rwa [folder_addFile] at later

/-! ## Loading -/

/-- What comes of loading a folder that can be looked for. -/
theorem load_result (here : folder.getD c.folder = path)
    (present : ∃ entry, d.find? path = .ok entry) :
    (c.load reader d folder).2 =
      match (addFiles reader d ⟨[], path, c.loaded⟩ (filesIn d path)).2 with
      | .ok [] => .ok ()
      | .ok found => .error (.defects found)
      | .error defect => .error (.unforeseen defect) := by
  obtain ⟨entry, present⟩ := present
  rw [load]
  simp only [here, present]
  unfold fill
  split
  · rename_i none
    rw [none]
    rfl
  · simp only
    split <;> simp_all

/-- Loading a folder whose template files can be read gives a template for each of them, or reports
the defects of all of them; or it comes upon a file that derails it, and ends with the defect of the
first such file. -/
theorem load_of_readable (reader : DataFile.Reader) (here : folder.getD c.folder = path)
    (present : ∃ entry, d.find? path = .ok entry)
    (readable : ∀ name ∈ filesIn d path, ∃ content, d.read (path ++ [name]) = .ok content) :
    (∀ name ∈ filesIn d path, ¬ Derails reader d (path ++ [name])) ∧
        ((c.load reader d folder).2 = .ok () ∧
            (∀ name ∈ filesIn d path, ∃ t, readFile reader d (path ++ [name]) = .ok t) ∨
          ∃ found, (c.load reader d folder).2 = .error (.defects found) ∧
            ∀ name ∈ filesIn d path, ∀ defect, readFile reader d (path ++ [name]) = .error defect →
              (name, defect) ∈ found) ∨
      ∃ before name after defect, filesIn d path = before ++ name :: after ∧
        (∀ earlier ∈ before, ¬ Derails reader d (path ++ [earlier])) ∧
        Derails reader d (path ++ [name]) ∧
        readFile reader d (path ++ [name]) = .error defect ∧
        (c.load reader d folder).2 = .error (.unforeseen defect) := by
  have derails (name : String) (listed : name ∈ filesIn d path) :
      Derails reader d (path ++ [name]) ↔
        FailsWith Defect.IsStray (readFile reader d (path ++ [name])) :=
    derails_iff (readable name listed)
  rw [load_result here present]
  cases result : (addFiles reader d ⟨[], path, c.loaded⟩ (filesIn d path)).2 with
  | ok found =>
      have defects := mem_of_addFiles result
      refine .inl ⟨fun name listed => ?_, ?_⟩
      · rw [derails name listed]
        exact not_stray_of_addFiles result name listed
      · cases found with
        | cons x found => exact .inr ⟨x :: found, rfl, defects⟩
        | nil =>
            refine .inl ⟨rfl, fun name listed => ?_⟩
            cases read : readFile reader d (path ++ [name]) with
            | ok t => exact ⟨t, rfl⟩
            | error defect => exact absurd (defects name listed defect read) List.not_mem_nil
  | error defect =>
      obtain ⟨before, name, after, files, fine, read, stray⟩ := addFiles_eq_error_iff.1 result
      have listed (other : String) (member : other ∈ before ++ name :: after) :
          other ∈ filesIn d path := files ▸ member
      refine .inr ⟨before, name, after, defect, files, fun earlier member => ?_, ?_, read, rfl⟩
      · rw [derails earlier (listed earlier (List.mem_append_left _ member))]
        exact fine earlier member
      · rw [derails name (listed name (by simp))]
        exact ⟨defect, read, stray⟩

/-- A folder with two files that should be templates. The second one is empty. -/
def twoFiles (first : String) : Disk :=
  ⟨[(["d"], .folder), (["d", "a.json"], .file first.toUTF8),
    (["d", "b.json"], .file "null".toUTF8)]⟩

theorem filesIn_twoFiles (first : String) :
    filesIn (twoFiles first) ["d"] = ["a.json", "b.json"] := by
  have names : (twoFiles first).names ["d"] =
      ["a.json", "b.json"].mergeSort fun a b => decide (a ≤ b) := rfl
  rw [filesIn, names, List.mergeSort_of_pairwise (by decide)]
  decide

/-- A file without data is reported together with another, but not behind one with a list. -/
theorem defect_behind_list :
    (load Yaml.reader (twoFiles "[1]") (some ["d"]) (empty [])).2 =
        .error (.unforeseen (.ofFault .notRecord)) ∧
      ∃ found, (load Yaml.reader (twoFiles "null") (some ["d"]) (empty [])).2 =
          .error (.defects found) ∧
        ("a.json", .noDefinition) ∈ found ∧ ("b.json", .noDefinition) ∈ found := by
  have readable (first : String) : ∀ name ∈ filesIn (twoFiles first) ["d"],
      ∃ content, (twoFiles first).read (["d"] ++ [name]) = .ok content := by
    rw [filesIn_twoFiles]
    simp only [List.forall_mem_cons]
    exact ⟨⟨_, rfl⟩, ⟨_, rfl⟩, List.forall_mem_nil _⟩
  have here : (some ["d"]).getD (empty []).folder = ["d"] := rfl
  have outcome (first : String) := load_of_readable Yaml.reader here ⟨some .folder, rfl⟩
    (readable first)
  simp only [filesIn_twoFiles] at outcome
  constructor
  · have list : DataFile.read Yaml.reader (twoFiles "[1]") ["d", "a.json"] = .ok (.list [.int 1]) :=
      DataFile.read_of_text rfl (by decide) (by decide +kernel)
    have derails : Derails Yaml.reader (twoFiles "[1]") ["d", "a.json"] :=
      .inr ⟨_, list, rfl, .whole rfl⟩
    rcases outcome "[1]" with ⟨fine, -⟩ | ⟨before, name, after, defect, files, fine, -, read, ends⟩
    · exact absurd derails (fine "a.json" List.mem_cons_self)
    · cases before with
      | cons earlier before =>
          obtain ⟨rfl, -⟩ := List.cons.inj files
          exact absurd derails (fine "a.json" List.mem_cons_self)
      | nil =>
          obtain ⟨rfl, -⟩ := List.cons.inj files
          have whole : readFile Yaml.reader (twoFiles "[1]") ["d", "a.json"] =
              .error (.ofFault .notRecord) := by
            rw [readFile, list]
            rfl
          obtain rfl := Except.error.inj (whole.symm.trans read)
          exact ends
  · have null : ∀ name ∈ ["a.json", "b.json"],
        DataFile.read Yaml.reader (twoFiles "null") (["d"] ++ [name]) = .ok .null := by
      have text : Yaml.reader "null" = .ok .null := by decide +kernel
      simp only [List.forall_mem_cons]
      exact ⟨DataFile.read_of_text rfl (by decide) text,
        DataFile.read_of_text rfl (by decide) text, List.forall_mem_nil _⟩
    have read (name : String) (listed : name ∈ ["a.json", "b.json"]) :
        readFile Yaml.reader (twoFiles "null") (["d"] ++ [name]) = .error .noDefinition := by
      rw [readFile, null name listed]
      rfl
    rcases outcome "null" with
      ⟨-, ⟨-, templates⟩ | ⟨found, ends, defects⟩⟩ | ⟨before, name, after, _, files, -, derails, -⟩
    · obtain ⟨t, template⟩ := templates "a.json" List.mem_cons_self
      exact absurd (template.symm.trans (read "a.json" List.mem_cons_self)) (by simp)
    · exact ⟨found, ends, defects _ (by simp) _ (read _ (by simp)),
        defects _ (by simp) _ (read _ (by simp))⟩
    · have listed : name ∈ ["a.json", "b.json"] := by simp [files]
      rw [Derails, null name listed] at derails
      exact absurd derails (by simp [Value.isPresent])

end Catalogue

end MinuteBook
