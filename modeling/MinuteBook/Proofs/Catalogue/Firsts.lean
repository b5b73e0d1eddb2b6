import MinuteBook.Proofs.Catalogue.Loaded

/-!
# The first file of an id

Where loading is prepared for every template file of a folder (`Foreseen`), what it does is told
file by file, of each with those that stand before it (`verdict`): the file is kept if it has a
template and none of those has one with the same id, and otherwise it is reported. As long as the
catalogue knows the ids in the files before, one more file does just that to it
(`addFile_of_verdict_ok`, `addFile_of_verdict_error`), and then it knows one id more
(`Knows.addFile`). So all files in a row come to their verdicts (`addFiles_eq_verdicts`), whatever
the catalogue held before it was loaded (`load_firsts`).
-/

namespace MinuteBook.Catalogue

variable {reader : DataFile.Reader} {d : Disk} {c : Catalogue} {folder : Option Location}
  {path : Location} {t : Template} {id name : String} {before names : List String} {defect : Defect}

/-- A file with a template whose id is a text, or with a defect that loading looks out for. -/
def Foreseen (reader : DataFile.Reader) (d : Disk) (path : Location) : Prop :=
  (∃ t id, readFile reader d path = .ok t ∧ t.id = .text id) ∨
    ∃ defect, readFile reader d path = .error defect ∧ ¬ defect.IsStray

theorem Foreseen.exists_id (h : Foreseen reader d path) (read : readFile reader d path = .ok t) :
    ∃ id, t.id = .text id := by
  obtain ⟨u, id, read', key⟩ | ⟨defect, failed, -⟩ := h
  · obtain rfl := Except.ok.inj (read.symm.trans read')
    exact ⟨id, key⟩
  · exact absurd (read.symm.trans failed) (by simp)

theorem Foreseen.not_stray (h : Foreseen reader d path)
    (read : readFile reader d path = .error defect) : ¬ defect.IsStray := by
  obtain ⟨t, id, read', -⟩ | ⟨defect', failed, foreseen⟩ := h
  · exact absurd (read.symm.trans read') (by simp)
  · obtain rfl := Except.error.inj (read.symm.trans failed)
    exact foreseen

/-- The ids of the templates in files that are texts. -/
def idsIn (reader : DataFile.Reader) (d : Disk) (path : Location) (names : List String) :
    List String :=
  names.filterMap fun name => (readFile reader d (path ++ [name])).toOption.bind fun t => t.id.text?

/-- What comes of a file behind others: its template, unless it has none or one of the others has
a template with the same id. -/
def verdict (reader : DataFile.Reader) (d : Disk) (path : Location) (before : List String)
    (name : String) : Except Defect Template :=
  match readFile reader d (path ++ [name]) with
  | .error defect => .error defect
  | .ok t =>
    match t.id.text?.filter fun id => id ∈ idsIn reader d path before with
    | some id => .error (.duplicateId id)
    | none => .ok t

/-- Files that stand behind others, each with what comes of it behind all before it. -/
def verdicts (reader : DataFile.Reader) (d : Disk) (path : Location) :
    List String → List String → List (String × Except Defect Template)
  | _, [] => []
  | before, name :: names =>
    (name, verdict reader d path before name) :: verdicts reader d path (before ++ [name]) names

/-- The templates of the files that are kept, by id. -/
def kept (outcomes : List (String × Except Defect Template)) : List (Value × Template) :=
  outcomes.filterMap fun x => x.2.toOption.map fun t => (t.id, t)

/-- The defects of the other files, by name. -/
def faulty (outcomes : List (String × Except Defect Template)) : List (String × Defect) :=
  outcomes.filterMap fun x => match x.2 with
    | .ok _ => none
    | .error defect => some (x.1, defect)

/-! ## Verdicts -/

theorem text?_eq_some_iff {v : Value} : v.text? = some id ↔ v = .text id := by
  cases v <;> simp [Value.text?]

theorem mem_idsIn : id ∈ idsIn reader d path names ↔
    ∃ name ∈ names, ∃ t, readFile reader d (path ++ [name]) = .ok t ∧ t.id = .text id := by
  rw [idsIn, List.mem_filterMap]
  refine exists_congr fun name => and_congr_right fun _ => ?_
  cases readFile reader d (path ++ [name]) <;> simp [Except.toOption, text?_eq_some_iff]

theorem mem_idsIn_concat : id ∈ idsIn reader d path (names ++ [name]) ↔
    id ∈ idsIn reader d path names ∨
      ∃ t, readFile reader d (path ++ [name]) = .ok t ∧ t.id = .text id := by
  simp only [mem_idsIn, List.mem_append, List.mem_singleton, or_and_right, exists_or,
    exists_eq_left]

/-- A template is reported for an id that stands before it, or kept because there is none. -/
theorem verdict_cases (before : List String) (read : readFile reader d (path ++ [name]) = .ok t) :
    (∃ id ∈ idsIn reader d path before, t.id = .text id ∧
      verdict reader d path before name = .error (.duplicateId id)) ∨
    (∀ id ∈ idsIn reader d path before, t.id ≠ .text id) ∧
      verdict reader d path before name = .ok t := by
  rw [verdict, read]
  simp only
  split
  · rename_i id known
    rw [Option.filter_eq_some_iff, text?_eq_some_iff, decide_eq_true_iff] at known
    exact .inl ⟨id, known.2, known.1, rfl⟩
  · rename_i new
    rw [Option.filter_eq_none_iff] at new
    refine .inr ⟨fun id known key => ?_, rfl⟩
    exact new id (text?_eq_some_iff.2 key) (decide_eq_true known)

theorem verdict_of_error (failed : readFile reader d (path ++ [name]) = .error defect) :
    verdict reader d path before name = .error defect := by
  rw [verdict, failed]

theorem verdict_eq_ok_iff : verdict reader d path before name = .ok t ↔
    readFile reader d (path ++ [name]) = .ok t ∧
      ∀ id ∈ idsIn reader d path before, t.id ≠ .text id := by
  cases read : readFile reader d (path ++ [name]) with
  | error defect =>
      rw [verdict_of_error read]
      simp
  | ok u =>
      rw [Except.ok.injEq]
      obtain ⟨id, known, key, repeated⟩ | ⟨new, kept⟩ := verdict_cases before read
      · rw [repeated]
        refine iff_of_false (by simp) ?_
        rintro ⟨rfl, new⟩
        exact new id known key
      · rw [kept, Except.ok.injEq]
        refine (and_iff_left_of_imp ?_).symm
        rintro rfl
        exact new

theorem verdict_eq_error_iff : verdict reader d path before name = .error defect ↔
    readFile reader d (path ++ [name]) = .error defect ∨
      ∃ t id, readFile reader d (path ++ [name]) = .ok t ∧ t.id = .text id ∧
        id ∈ idsIn reader d path before ∧ defect = .duplicateId id := by
  cases read : readFile reader d (path ++ [name]) with
  | error defect =>
      rw [verdict_of_error read]
      simp
  | ok u =>
      simp only [Except.ok.injEq, reduceCtorEq, false_or, exists_eq_left', exists_and_left]
      obtain ⟨id, known, key, repeated⟩ | ⟨new, kept⟩ := verdict_cases before read
      · rw [repeated, Except.error.injEq]
        constructor
        · rintro rfl
          exact ⟨id, key, known, rfl⟩
        · rintro ⟨id', key', -, rfl⟩
          rw [Value.text.inj (key.symm.trans key')]
      · rw [kept]
        refine iff_of_false (by simp) ?_
        rintro ⟨id, key, known, -⟩
        exact new id known key

theorem map_fst_verdicts (reader : DataFile.Reader) (d : Disk) (path : Location)
    (before names : List String) :
    (verdicts reader d path before names).map Prod.fst = names := by
  induction names generalizing before with
  | nil => rfl
  | cons name names ih => rw [verdicts, List.map_cons, ih]

theorem mem_verdicts {v : Except Defect Template} :
    (name, v) ∈ verdicts reader d path before names ↔ ∃ earlier after,
      names = earlier ++ name :: after ∧ v = verdict reader d path (before ++ earlier) name := by
  induction names generalizing before with
  | nil => simp [verdicts]
  | cons first names ih =>
      rw [verdicts, List.mem_cons, ih]
      constructor
      · rintro (same | ⟨earlier, after, rfl, rfl⟩)
        · obtain ⟨rfl, rfl⟩ := Prod.mk.inj same
          exact ⟨[], names, rfl, by rw [List.append_nil]⟩
        · exact ⟨first :: earlier, after, rfl, by rw [List.append_assoc, List.singleton_append]⟩
      · rintro ⟨earlier, after, same, rfl⟩
        cases earlier with
        | nil =>
            obtain ⟨rfl, -⟩ := List.cons.inj same
            exact .inl (by rw [List.append_nil])
        | cons other earlier =>
            obtain ⟨rfl, rfl⟩ := List.cons.inj same
            exact .inr ⟨earlier, after, rfl, by rw [List.append_assoc, List.singleton_append]⟩

theorem mem_kept {key : Value} : (key, t) ∈ kept (verdicts reader d path before names) ↔
    ∃ earlier name after, names = earlier ++ name :: after ∧
      verdict reader d path (before ++ earlier) name = .ok t ∧ t.id = key := by
  rw [kept, List.mem_filterMap]
  constructor
  · rintro ⟨⟨name, v⟩, listed, good⟩
    obtain ⟨earlier, after, rfl, rfl⟩ := mem_verdicts.1 listed
    cases h : verdict reader d path (before ++ earlier) name with
    | error defect => simp [h, Except.toOption] at good
    | ok u =>
        simp only [h, Except.toOption, Option.map_some, Option.some.injEq, Prod.mk.injEq] at good
        obtain ⟨key, rfl⟩ := good
        exact ⟨earlier, name, after, rfl, h, key⟩
  · rintro ⟨earlier, name, after, rfl, h, rfl⟩
    exact ⟨(name, .ok t), mem_verdicts.2 ⟨earlier, after, rfl, h.symm⟩, rfl⟩

theorem mem_faulty : (name, defect) ∈ faulty (verdicts reader d path before names) ↔
    ∃ earlier after, names = earlier ++ name :: after ∧
      verdict reader d path (before ++ earlier) name = .error defect := by
  rw [faulty, List.mem_filterMap]
  constructor
  · rintro ⟨⟨name', v⟩, listed, bad⟩
    obtain ⟨earlier, after, rfl, rfl⟩ := mem_verdicts.1 listed
    cases h : verdict reader d path (before ++ earlier) name' with
    | ok t => simp [h] at bad
    | error defect' =>
        simp only [h, Option.some.injEq, Prod.mk.injEq] at bad
        obtain ⟨rfl, rfl⟩ := bad
        exact ⟨earlier, after, rfl, h⟩
  · rintro ⟨earlier, after, rfl, h⟩
    exact ⟨(name, .error defect), mem_verdicts.2 ⟨earlier, after, rfl, h.symm⟩, rfl⟩

/-- No two of the templates that are kept have the same id, if these are texts. -/
theorem nodup_kept (foreseen : ∀ name ∈ names, Foreseen reader d (path ++ [name])) :
    ((kept (verdicts reader d path before names)).map Prod.fst).Nodup := by
  induction names generalizing before with
  | nil => exact List.nodup_nil
  | cons name names ih =>
      rw [List.forall_mem_cons] at foreseen
      have rest : ((kept (verdicts reader d path (before ++ [name]) names)).map Prod.fst).Nodup :=
        ih foreseen.2
      rw [verdicts, kept, List.filterMap_cons]
      cases h : verdict reader d path before name with
      | error defect => exact rest
      | ok t =>
          refine List.nodup_cons.2 ⟨fun again => ?_, rest⟩
          obtain ⟨⟨key, u⟩, listed, same⟩ := List.mem_map.1 again
          obtain ⟨earlier, later, after, -, good, rfl⟩ := mem_kept.1 listed
          have read := (verdict_eq_ok_iff.1 h).1
          obtain ⟨id, text⟩ := foreseen.1.exists_id read
          refine (verdict_eq_ok_iff.1 good).2 id (mem_idsIn.2 ?_) (same.trans text)
          exact ⟨name, by simp, t, read, text⟩

/-! ## One file after another -/

/-- The ids in files are those of the catalogue, as far as they are texts. -/
def Knows (reader : DataFile.Reader) (d : Disk) (c : Catalogue) (names : List String) : Prop :=
  ∀ id, (c.find? (.text id)).isSome = true ↔ id ∈ idsIn reader d c.folder names

theorem knows_nil (h : c.templates = []) : Knows reader d c [] := by
  intro id
  simp [idsIn, isSome_find?_iff, h]

theorem addFile_of_verdict_ok (known : Knows reader d c before)
    (foreseen : Foreseen reader d (c.folder ++ [name]))
    (h : verdict reader d c.folder before name = .ok t) :
    addFile reader d c name = ({ c with templates := c.templates ++ [(t.id, t)] }, none) := by
  obtain ⟨read, new⟩ := verdict_eq_ok_iff.1 h
  obtain ⟨id, key⟩ := foreseen.exists_id read
  have none : c.find? (.text id) = none :=
    Option.not_isSome_iff_eq_none.1 fun there => new id ((known id).1 there) key
  rw [addFile_of_ok read, add, get, key, none]
  rfl

theorem addFile_of_verdict_error (known : Knows reader d c before)
    (h : verdict reader d c.folder before name = .error defect) :
    addFile reader d c name = (c, some defect) := by
  obtain failed | ⟨t, id, read, key, repeated, rfl⟩ := verdict_eq_error_iff.1 h
  · exact addFile_of_error failed
  · obtain ⟨u, found⟩ := Option.isSome_iff_exists.1 ((known id).2 repeated)
    rw [addFile_of_ok read, add, get, key, found]
    rfl

/-- A catalogue that knows the ids in the files before knows those up to the next file. -/
theorem Knows.addFile (known : Knows reader d c before)
    (foreseen : Foreseen reader d (c.folder ++ [name])) :
    Knows reader d (addFile reader d c name).1 (before ++ [name]) := by
  intro id
  rw [folder_addFile, mem_idsIn_concat, ← known id]
  cases h : verdict reader d c.folder before name with
  | ok t =>
      rw [addFile_of_verdict_ok known foreseen h, (verdict_eq_ok_iff.1 h).1]
      simp only [isSome_find?_iff, List.mem_append, List.mem_singleton, or_and_right, exists_or,
        exists_eq_left, exists_eq_left', Except.ok.injEq, Value.agrees_text_iff]
  | error defect =>
      rw [addFile_of_verdict_error known h]
      refine (or_iff_left_of_imp ?_).symm
      rintro ⟨t, read, key⟩
      obtain failed | ⟨u, id', read', key', repeated, -⟩ := verdict_eq_error_iff.1 h
      · exact absurd (read.symm.trans failed) (by simp)
      · obtain rfl := Except.ok.inj (read.symm.trans read')
        obtain rfl := Value.text.inj (key.symm.trans key')
        exact (known id).2 repeated

theorem addFiles_eq_verdicts (known : Knows reader d c before)
    (foreseen : ∀ name ∈ names, Foreseen reader d (c.folder ++ [name])) :
    addFiles reader d c names =
      ({ c with templates := c.templates ++ kept (verdicts reader d c.folder before names) },
        .ok (faulty (verdicts reader d c.folder before names))) := by
  induction names generalizing c before with
  | nil => simp [addFiles, verdicts, kept, faulty]
  | cons name names ih =>
      rw [List.forall_mem_cons] at foreseen
      have next := ih (known.addFile foreseen.1) (by rw [folder_addFile]; exact foreseen.2)
      rw [addFiles_cons, verdicts]
      cases h : verdict reader d c.folder before name with
      | ok t =>
          have first := addFile_of_verdict_ok known foreseen.1 h
          rw [first] at next ⊢
          simp [next, kept, faulty, Except.toOption]
      | error defect =>
          have first := addFile_of_verdict_error known h
          have look : ¬ defect.isUnforeseen = true := fun stray =>
            foreseen.1.not_stray (readFile_of_stray (congrArg Prod.snd first) stray) stray
          rw [first] at next ⊢
          simp [next, kept, faulty, Except.toOption, look, Except.map]

/-! ## Loading -/

theorem find?_text_eq_lookup (c : Catalogue) (id : String) :
    c.find? (.text id) = c.templates.lookup (.text id) := by
  rw [find?]
  induction c.templates with
  | nil => rfl
  | cons x templates ih =>
      obtain ⟨key, t⟩ := x
      rw [List.find?_cons, List.lookup_cons]
      by_cases same : key = .text id
      · rw [Value.agrees_text_iff.2 same, same, BEq.rfl]
        rfl
      · rw [Bool.eq_false_iff.2 (mt Value.agrees_text_iff.1 same),
          beq_eq_false_iff_ne.2 (Ne.symm same)]
        exact ih

theorem templates_load (here : folder.getD c.folder = path)
    (present : ∃ entry, d.find? path = .ok entry) : (c.load reader d folder).1.templates =
      (addFiles reader d ⟨[], path, c.loaded⟩ (filesIn d path)).1.templates := by
  obtain ⟨entry, present⟩ := present
  rw [load]
  simp only [here, present]
  obtain ⟨none, result⟩ | ⟨-, -, result⟩ | ⟨e, result⟩ := fill_cases reader d ⟨[], path, c.loaded⟩
  · rw [result, none]
    rfl
  · rw [result]
  · rw [result]

theorem load_of_addFiles {found : List (String × Defect)} (here : folder.getD c.folder = path)
    (present : ∃ entry, d.find? path = .ok entry)
    (added : (addFiles reader d ⟨[], path, c.loaded⟩ (filesIn d path)).2 = .ok found) :
    (c.load reader d folder).2 = .ok () ∧ found = [] ∨
      (c.load reader d folder).2 = .error (.defects found) ∧ found ≠ [] := by
  rw [load_result here present, added]
  cases found with
  | nil => exact .inl ⟨rfl, rfl⟩
  | cons x found => exact .inr ⟨rfl, List.cons_ne_nil x found⟩

/-- A template is kept for an id if it is that of the first file with that id. -/
theorem mem_kept_text : (.text id, t) ∈ kept (verdicts reader d path [] names) ↔
    ∃ before name after, names = before ++ name :: after ∧
      readFile reader d (path ++ [name]) = .ok t ∧ t.id = .text id ∧
      id ∉ idsIn reader d path before := by
  simp only [mem_kept, List.nil_append, verdict_eq_ok_iff]
  constructor
  · rintro ⟨before, name, after, same, ⟨read, new⟩, key⟩
    exact ⟨before, name, after, same, read, key, fun known => new id known key⟩
  · rintro ⟨before, name, after, same, read, key, new⟩
    refine ⟨before, name, after, same, ⟨read, fun other known text => ?_⟩, key⟩
    rw [← Value.text.inj (key.symm.trans text)] at known
    exact new known

/-- A file is reported if it has no template, or one with the id of an earlier file. -/
theorem faulty_ne_nil_iff : faulty (verdicts reader d path [] names) ≠ [] ↔ ∃ before name after,
    names = before ++ name :: after ∧
      ((∃ defect, readFile reader d (path ++ [name]) = .error defect) ∨
        ∃ t id, readFile reader d (path ++ [name]) = .ok t ∧ t.id = .text id ∧
          id ∈ idsIn reader d path before) := by
  constructor
  · intro some
    obtain ⟨⟨name, defect⟩, listed⟩ := List.exists_mem_of_ne_nil _ some
    obtain ⟨before, after, same, bad⟩ := mem_faulty.1 listed
    refine ⟨before, name, after, same, ?_⟩
    obtain failed | ⟨t, id, read, key, repeated, -⟩ := verdict_eq_error_iff.1 bad
    · exact .inl ⟨defect, failed⟩
    · exact .inr ⟨t, id, read, key, repeated⟩
  · rintro ⟨before, name, after, same, ⟨defect, failed⟩ | ⟨t, id, read, key, repeated⟩⟩
    · exact List.ne_nil_of_mem
        (mem_faulty.2 ⟨before, after, same, verdict_eq_error_iff.2 (.inl failed)⟩)
    · exact List.ne_nil_of_mem (mem_faulty.2 ⟨before, after, same,
        verdict_eq_error_iff.2 (.inr ⟨t, id, read, key, repeated, rfl⟩)⟩)

/-- Loading a folder for whose template files it is prepared, whatever their reader. The files come
in the order of their names. The catalogue has the templates of those that are kept, in that order
and nothing else, whatever it held before: under each id the template of the first file with that
id. The load fails exactly if a file has no template, or one with the id of an earlier file, and its
message has one line for each such file, whatever the words. -/
theorem load_firsts (reader : DataFile.Reader) (here : folder.getD c.folder = path)
    (present : ∃ entry, d.find? path = .ok entry)
    (foreseen : ∀ name ∈ filesIn d path, Foreseen reader d (path ++ [name])) :
    let files := filesIn d path
    let outcome := c.load reader d folder
    let found := faulty (verdicts reader d path [] files)
    files.Pairwise (· ≤ ·) ∧ (verdicts reader d path [] files).map Prod.fst = files ∧
    outcome.1.templates = kept (verdicts reader d path [] files) ∧
    (∀ id t, outcome.1.find? (.text id) = some t ↔ ∃ before name after,
      files = before ++ name :: after ∧ readFile reader d (path ++ [name]) = .ok t ∧
        t.id = .text id ∧ id ∉ idsIn reader d path before) ∧
    (outcome.2 = .ok () ∧ found = [] ∨ outcome.2 = .error (.defects found) ∧ found ≠ []) ∧
    (outcome.2 ≠ .ok () ↔ ∃ before name after, files = before ++ name :: after ∧
      ((∃ defect, readFile reader d (path ++ [name]) = .error defect) ∨
        ∃ t id, readFile reader d (path ++ [name]) = .ok t ∧ t.id = .text id ∧
          id ∈ idsIn reader d path before)) ∧
    ∀ words, defectsMessage words found = "Template configuration errors:\n" ++
      String.intercalate "\n" (found.map fun x => "  - " ++ x.1 ++ ": " ++ x.2.message words) := by
  intro files outcome found
  have added := addFiles_eq_verdicts (c := ⟨[], path, c.loaded⟩) (knows_nil rfl) foreseen
  have templates : outcome.1.templates = kept (verdicts reader d path [] files) := by
    rw [templates_load here present, added]
    rfl
  have result : outcome.2 = .ok () ∧ found = [] ∨
      outcome.2 = .error (.defects found) ∧ found ≠ [] :=
    load_of_addFiles here present (congrArg Prod.snd added)
  refine ⟨pairwise_filesIn d path, map_fst_verdicts reader d path [] files, templates,
    fun id t => ?_, result, ?_, fun _ => rfl⟩
  · rw [find?_text_eq_lookup, templates, ← mem_kept_text]
    exact ⟨Keyed.mem_of_lookup, Keyed.lookup_of_mem (nodup_kept foreseen)⟩
  · rw [← faulty_ne_nil_iff]
    obtain ⟨well, none⟩ | ⟨failed, some⟩ := result
    · exact iff_of_false (not_not.2 well) (not_not.2 none)
    · exact iff_of_true (by simp [failed]) some

/-- A folder with three files that should be templates, the same text in the first and the last. The
one between them is empty. -/
def threeFiles (memo : String) : Disk :=
  ⟨[(["d"], .folder), (["d", "a.json"], .file memo.toUTF8), (["d", "b.yml"], .file "null".toUTF8),
    (["d", "c.yaml"], .file memo.toUTF8)]⟩

theorem filesIn_threeFiles (memo : String) :
    filesIn (threeFiles memo) ["d"] = ["a.json", "b.yml", "c.yaml"] := by
  have names : (threeFiles memo).names ["d"] =
      ["a.json", "b.yml", "c.yaml"].mergeSort fun a b => decide (a ≤ b) := rfl
  rw [filesIn, names, List.mergeSort_of_pairwise (by decide)]
  decide

theorem read_threeFiles (memo : String) :
    (threeFiles memo).read ["d", "a.json"] = .ok memo.toUTF8 ∧
      (threeFiles memo).read ["d", "b.yml"] = .ok "null".toUTF8 ∧
      (threeFiles memo).read ["d", "c.yaml"] = .ok memo.toUTF8 :=
  ⟨rfl, rfl, rfl⟩

/-- Of two memos the first is kept, though the catalogue had one before; the other is reported, and
the empty file before it. -/
theorem load_firsts_of_threeFiles :
    let outcome := Memo.serving.catalogue.load Yaml.reader (threeFiles Memo.definition) none
    outcome.1.templates = [(.text "m", Memo.published)] ∧
      outcome.2 = .error (.defects [("b.yml", .noDefinition), ("c.yaml", .duplicateId "m")]) := by
  intro outcome
  obtain ⟨contentA, contentB, contentC⟩ := read_threeFiles Memo.definition
  have first : readFile Yaml.reader (threeFiles Memo.definition) ["d", "a.json"] =
      .ok Memo.published :=
    Memo.readFile_of_content contentA Memo.no_return_definition Memo.read_definition
  have last : readFile Yaml.reader (threeFiles Memo.definition) ["d", "c.yaml"] =
      .ok Memo.published :=
    Memo.readFile_of_content contentC Memo.no_return_definition Memo.read_definition
  have between : readFile Yaml.reader (threeFiles Memo.definition) ["d", "b.yml"] =
      .error .noDefinition := by
    have null : Yaml.reader "null" = .ok .null := by decide +kernel
    rw [readFile, DataFile.read_of_text contentB (by decide) null]
    rfl
  have key : Memo.published.id = .text "m" := rfl
  have foreseen : ∀ name ∈ filesIn (threeFiles Memo.definition) ["d"],
      Foreseen Yaml.reader (threeFiles Memo.definition) (["d"] ++ [name]) := by
    rw [filesIn_threeFiles]
    simp only [List.forall_mem_cons]
    exact ⟨.inl ⟨_, "m", first, key⟩, .inr ⟨_, between, by decide⟩, .inl ⟨_, "m", last, key⟩,
      List.forall_mem_nil _⟩
  have here : (none : Option Location).getD Memo.serving.catalogue.folder = ["d"] := rfl
  obtain ⟨-, -, templates, -, result, -⟩ :=
    load_firsts Yaml.reader here ⟨some .folder, rfl⟩ foreseen
  have outcomes : verdicts Yaml.reader (threeFiles Memo.definition) ["d"] []
      (filesIn (threeFiles Memo.definition) ["d"]) =
        [("a.json", .ok Memo.published), ("b.yml", .error .noDefinition),
          ("c.yaml", .error (.duplicateId "m"))] := by
    have kept : verdict Yaml.reader (threeFiles Memo.definition) ["d"] [] "a.json" =
        .ok Memo.published :=
      verdict_eq_ok_iff.2 ⟨first, List.forall_mem_nil _⟩
    have empty : verdict Yaml.reader (threeFiles Memo.definition) ["d"] ["a.json"] "b.yml" =
        .error .noDefinition := verdict_eq_error_iff.2 (.inl between)
    have repeated : verdict Yaml.reader (threeFiles Memo.definition) ["d"] ["a.json", "b.yml"]
        "c.yaml" = .error (.duplicateId "m") :=
      verdict_eq_error_iff.2 (.inr ⟨_, "m", last, key,
        mem_idsIn.2 ⟨"a.json", List.mem_cons_self, _, first, key⟩, rfl⟩)
    rw [filesIn_threeFiles, verdicts, verdicts, verdicts, verdicts]
    simp only [List.nil_append, List.cons_append, kept, empty, repeated]
  rw [outcomes] at templates result
  exact ⟨templates, (result.resolve_left (by simp [faulty])).1⟩

end MinuteBook.Catalogue
