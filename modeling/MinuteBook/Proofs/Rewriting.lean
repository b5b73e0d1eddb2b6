import MinuteBook.Proofs.SaveOutcome

/-!
# Writing a file again and again

A row of writes of one file, done or not, keeps a disk `Within` what belongs to that file: any other
place is spared, and what does not belong to the file stands on the disk in the order in which it
stood. So it is decided before the first write whether the file can be written (`Writable`): on each
of these disks a write is done exactly if it is done on every other, provided that no step is
refused (`writeFile_eq_ok_iff`, `Within.writable_iff`).
-/

namespace MinuteBook

namespace Location

variable {path place : Location}

theorem lead_of_no_back (noBack : ".." ∉ path) : lead path = path := by
  induction path using List.reverseRecOn with
  | nil => rfl
  | append_singleton path name ih =>
      rw [List.mem_append, List.mem_singleton, not_or] at noBack
      rw [lead_concat, next, if_neg (Ne.symm noBack.2), ih noBack.1]

/-- The direct way to the end of a path passes nothing that the path does not pass. -/
theorem Passes.of_lead (h : Passes (lead path) place) : path.Passes place := by
  induction path using List.reverseRecOn with
  | nil => exact h
  | append_singleton path name ih =>
      have before (h : Passes (lead path) place) : Passes (path ++ [name]) place := by
        rw [passes_iff, parent_concat]
        exact .inl (ih h)
      by_cases back : name = ".."
      · rw [lead_concat, next, if_pos back] at h
        obtain ⟨names, first, rfl⟩ := h
        exact before ⟨names, first.trans (List.dropLast_prefix _), rfl⟩
      · have whole := no_back_lead (path ++ [name])
        rw [passes_iff, lead_of_no_back whole] at h
        rcases h with first | rfl
        · rw [lead_concat, next, if_neg back, parent_concat] at first
          exact before first
        · exact passes_lead _

end Location

open Location (lead passes_lead)

/-! ## Operations -/

namespace Disk

variable {d d' d'' : Disk} {path place source target : Location} {content : ByteArray}
  {p : Location → Bool}

theorem Spared.trans (h : Spared path d d' place) (h' : Spared path d' d'' place) :
    Spared path d d'' place := by
  rcases h' with same | ⟨free, folder, passed⟩
  · rw [Spared, same]
    exact h
  · rcases h with same | ⟨-, folder', -⟩
    · exact .inr ⟨same ▸ free, folder, passed⟩
    · rw [folder'] at free
      exact absurd free (by simp)

theorem Open.lead (isOpen : d.Open path) : d.Open (lead path) :=
  fun place passed => isOpen place passed.of_lead

theorem write_of_resolve (found : d.resolve path = .ok place)
    (notFolder : d.get? place ≠ some .folder) :
    d.write path content = .ok (d.put place (.file content)) := by
  rw [write, found, ok_bind, if_neg notFolder]
  rfl

theorem replace_of_resolve (held : d.get? place = some (.file content))
    (found : d.resolve source = .ok place) (found' : d.resolve path = .ok target)
    (notFolder : d.get? target ≠ some .folder) :
    d.replace source path = .ok ((d.erase place).put target (.file content)) := by
  rw [replace, found, ok_bind, found', ok_bind, held]
  simp only [if_neg notFolder]
  rfl

/-- A file is made at a free place, filled, and moved over another file. -/
theorem write_and_replace (free : d.get? place = none) (resolved : d.resolve place = .ok place)
    (found : d.resolve path = .ok target) (notFolder : d.get? target ≠ some .folder)
    (apart : target ≠ place) (content : ByteArray) :
    ∃ d₂ d₃ d₄, d.write place .empty = .ok d₂ ∧ d₂.write place content = .ok d₃ ∧
      d₃.replace place path = .ok d₄ := by
  have inside := ne_nil_of_free free
  have keeps {d' : Disk} (same : ∀ other, other ≠ place → d'.get? other = d.get? other) :
      KeepsFolders d d' := by
    intro other folder
    rw [same other]
    · exact folder
    · rintro rfl
      rw [free] at folder
      exact absurd folder (by simp)
  let d₂ := d.put place (.file .empty)
  have same₂ (other : Location) (elsewhere : other ≠ place) : d₂.get? other = d.get? other := by
    rw [get?_put _ _ _ _ inside, if_neg elsewhere]
  have held₂ : d₂.get? place = some (.file .empty) := by
    rw [get?_put _ _ _ _ inside, if_pos rfl]
  let d₃ := d₂.put place (.file content)
  have same₃ (other : Location) (elsewhere : other ≠ place) : d₃.get? other = d.get? other := by
    rw [get?_put _ _ _ _ inside, if_neg elsewhere, same₂ other elsewhere]
  have held₃ : d₃.get? place = some (.file content) := by
    rw [get?_put _ _ _ _ inside, if_pos rfl]
  refine ⟨d₂, d₃, _, write_of_resolve resolved (by simp [free]),
    write_of_resolve (resolve_mono (keeps same₂) resolved) (by simp [held₂]),
    replace_of_resolve held₃ (resolve_mono (keeps same₃) resolved)
      (resolve_mono (keeps same₃) found) ?_⟩
  rw [same₃ target apart]
  exact notFolder

/-! What an operation does not name stays in its order. -/

theorem filter_put (off : p place = false) (e : Entry) :
    (d.put place e).entries.filter (fun x => p x.1) = d.entries.filter fun x => p x.1 := by
  rw [put, List.filter_cons_of_neg (by simp [off]), List.filter_filter]
  apply List.filter_congr
  intro x _
  by_cases same : x.1 = place
  · simp [same, off]
  · simp [same]

theorem filter_erase (off : p place = false) :
    (d.erase place).entries.filter (fun x => p x.1) = d.entries.filter fun x => p x.1 := by
  rw [erase, List.filter_filter]
  apply List.filter_congr
  intro x _
  by_cases same : x.1 = place
  · simp [same, off]
  · simp [same]

theorem filter_makeFolder (h : d.makeFolder path = .ok (d', place)) (off : p (lead path) = false) :
    d'.entries.filter (fun x => p x.1) = d.entries.filter fun x => p x.1 := by
  obtain ⟨-, found⟩ := makeFolder_eq_ok h
  obtain rfl := (resolve_eq_ok_iff_open.1 found).2.2
  rw [makeFolder, found, ok_bind] at h
  split at h
  · obtain ⟨rfl, -⟩ := Prod.mk.inj (Except.ok.inj h)
    rfl
  · exact absurd h (by simp [throw, throwThe, MonadExceptOf.throw])
  · obtain ⟨rfl, -⟩ := Prod.mk.inj (Except.ok.inj h)
    exact filter_put off _

theorem filter_makeFolders (d : Disk) (path : Location)
    (off : ∀ place, path.Passes place → p place = false) :
    (d.makeFolders path).1.entries.filter (fun x => p x.1) =
      d.entries.filter fun x => p x.1 := by
  fun_induction d.makeFolders path with
  | case1 =>
      rename_i made
      exact filter_makeFolder made (off _ (passes_lead _))
  | case2 => rfl
  | case3 =>
      rename_i outer ih
      rw [outer] at ih
      exact ih fun place passed => off place (Location.passes_iff.2 (.inl passed))
  | case4 =>
      rename_i outer _ _ made ih
      rw [outer] at ih
      rw [filter_makeFolder made (off _ (passes_lead _))]
      exact ih fun place passed => off place (Location.passes_iff.2 (.inl passed))
  | case5 =>
      rename_i outer _ _ ih
      rw [outer] at ih
      exact ih fun place passed => off place (Location.passes_iff.2 (.inl passed))
  | case6 => rfl

end Disk

namespace Numbering

variable {sys : System} {marks : List Mark} {d d' : Disk} {file folder : Location}
  {text name : String}

/-! ## Where a write leaves traces -/

/-- A place that a write of a file may touch: one on the way to it, its own, or that of a text
aside. -/
def Touches (file place : Location) : Prop :=
  file.parent.Passes place ∨ place = lead file ∨
    ∃ m, place = lead file.parent ++ [asideName file.name m]

theorem filter_putAside {p : Location → Bool} {place : Location} (off : p place = false) :
    (putAside d place text).entries.filter (fun x => p x.1) =
      d.entries.filter fun x => p x.1 := by
  rw [putAside, Disk.filter_put off, Disk.filter_put off]

theorem Begun.touches {d₁ : Disk} {place : Location} (begun : Begun sys d file d₁ place) :
    Touches file place := .inr (.inr begun.named)

theorem filter_makeFolders (sys : System) (d : Disk) {p : Location → Bool}
    (off : ∀ place, Touches file place → p place = false) :
    (makeFolders sys d file).1.entries.filter (fun x => p x.1) =
      d.entries.filter fun x => p x.1 := by
  rw [makeFolders]
  split
  · exact Disk.filter_makeFolders d _ fun place passed => off place (.inl passed.of_take)
  · exact Disk.filter_makeFolders d _ fun place passed => off place (.inl passed)

/-- What a write does not touch stays in its order. -/
theorem filter_writeFile (sys : System) (d : Disk) (text : String) {p : Location → Bool}
    (off : ∀ place, Touches file place → p place = false) :
    (writeFile sys d file text).1.entries.filter (fun x => p x.1) =
      d.entries.filter fun x => p x.1 := by
  have folders := filter_makeFolders sys d off
  generalize wrote : writeFile sys d file text = after
  obtain ⟨d', result⟩ := after
  cases course_of_writeFile wrote with
  | noFolders failed => rwa [failed] at folders
  | noName made => rwa [made] at folders
  | notCreated begun => rwa [begun.made] at folders
  | notFilled begun =>
      rw [begun.made] at folders
      have hidden := off _ begun.touches
      rw [Disk.filter_erase hidden, Disk.filter_put hidden, folders]
  | notReplaced begun =>
      rw [begun.made] at folders
      have hidden := off _ begun.touches
      rw [Disk.filter_erase hidden, filter_putAside hidden, folders]
  | done begun =>
      rw [begun.made] at folders
      have hidden := off _ begun.touches
      rw [Disk.filter_put (off _ (.inr (.inl rfl))), Disk.filter_erase hidden,
        filter_putAside hidden, folders]

/-! ## Whether a file can be written -/

/-- A file that can be written, unless a step is refused: no file lies on the way to it, which is a
fit path and does not end at it; there is no folder at its place; and with one of the marks there is
a place aside, which is fit too. -/
structure Writable (marks : List Mark) (d : Disk) (file : Location) : Prop where
  clear : d.Clear file.parent
  fit : file.Fit
  ahead : ¬ file.parent.Passes (lead file)
  free : d.get? (lead file) ≠ some .folder
  beside : ∃ place,
    aside marks (d.makeFolders file.parent).1 (lead file.parent) file.name = .ok place ∧ place.Fit

theorem fit_parent (h : file.Fit) : file.parent.Fit := by
  cases file using List.reverseRecOn with
  | nil => exact h
  | append_singleton path name =>
      rw [Location.parent_concat]
      exact h.of_concat

/-- The text aside is never at the place of the file. -/
theorem lead_ne_aside (file : Location) (m : Mark) :
    lead file ≠ lead file.parent ++ [asideName file.name m] := by
  cases file using List.reverseRecOn with
  | nil => exact fun same => absurd (congrArg List.length same) (by simp)
  | append_singleton path name =>
      have last : Location.name (path ++ [name]) = name := by simp [Location.name]
      rw [Location.parent_concat, Location.lead_concat, Location.next, last]
      intro same
      split at same
      · have lengths := congrArg List.length same
        rw [List.length_dropLast, List.length_append, List.length_singleton] at lengths
        omega
      · have names := List.singleton_inj.1 (List.append_cancel_left same)
        have lengths := congrArg String.length names
        have tail : ".tmp".length = 4 := by decide
        simp only [asideName, String.length_append, tail] at lengths
        omega

/-- A file that has been written was one that can be. -/
theorem writable_of_writeFile (h : writeFile sys d file text = (d', .ok ())) :
    (∀ step, sys.refuses step = false) ∧ Writable sys.marks d file := by
  have more := moreFolders_makeFolders sys d file
  cases course_of_writeFile h with
  | done begun allowed besideFit found notFolder =>
      rw [begun.made] at more
      obtain ⟨fit, isOpen, -⟩ := Disk.resolve_eq_ok_iff_open.1 found
      refine ⟨allowed, (more.clear_iff).1 isOpen.clear, fit, ?_,
        fun folder => notFolder (more.keepsFolders _ folder), ?_⟩
      · exact fun passed => notFolder (isOpen _ passed)
      · obtain ⟨-, made⟩ := makeFolders_eq_ok begun.made
        rw [made]
        exact ⟨_, begun.beside, besideFit⟩

/-- A file that can be written is written if no step is refused. -/
theorem writeFile_of_writable (can : Writable sys.marks d file)
    (allowed : ∀ step, sys.refuses step = false) (text : String) :
    (writeFile sys d file text).2 = .ok () := by
  obtain ⟨d₁, made, isOpen⟩ := Disk.makeFolders_of_clear (fit_parent can.fit) can.clear
  obtain ⟨place, beside, fit⟩ := can.beside
  rw [made] at beside
  have begun : Begun sys d file d₁ place :=
    ⟨by rw [makeFolders, if_neg (by simp [allowed]), made], beside⟩
  have notFolder : d₁.get? (lead file) ≠ some .folder := by
    have same := Disk.get?_makeFolders d file.parent can.ahead
    rw [made] at same
    rw [same]
    exact can.free
  have found : d₁.resolve file = .ok (lead file) :=
    Disk.resolve_eq_ok_iff_open.2 ⟨can.fit, isOpen, rfl⟩
  obtain ⟨m, named⟩ := begun.named
  have resolved : d₁.resolve place = .ok place := by
    have above : place.parent = lead file.parent := by rw [named, Location.parent_concat]
    exact Disk.resolve_eq_ok_iff_open.2
      ⟨fit, above ▸ isOpen.lead, Location.lead_of_no_back begun.no_back⟩
  have apart : lead file ≠ place := named ▸ lead_ne_aside file m
  obtain ⟨d₂, d₃, d₄, created, filled, replaced⟩ :=
    Disk.write_and_replace begun.free resolved found notFolder apart text.toUTF8
  rw [writeFile, begun.made]
  simp only [beside, attempt, allowed, created, filled, replaced, Bool.false_eq_true, if_false]

/-- A write is done exactly if no step is refused and the file can be written. -/
theorem writeFile_eq_ok_iff : (writeFile sys d file text).2 = .ok () ↔
    (∀ step, sys.refuses step = false) ∧ Writable sys.marks d file := by
  constructor
  · exact fun h => writable_of_writeFile (Prod.ext rfl h)
  · rintro ⟨allowed, can⟩
    exact writeFile_of_writable can allowed text

/-- The place aside depends on nothing but what stands at the places that are tried. -/
theorem aside_congr (same : ∀ m : Mark,
      d.get? (folder ++ [asideName name m]) = d'.get? (folder ++ [asideName name m])) :
    aside marks d folder name = aside marks d' folder name := by
  simp only [aside, same]

/-! ## Several writes -/

/-- A disk that differs from another by no more than writes of a file can change: every place is
spared, or it is that of the file, where there was no folder and now is a file; and what no write
touches stands in its order. -/
structure Within (file : Location) (d d' : Disk) : Prop where
  places : ∀ place, Disk.Spared file.parent d d' place ∨ place = lead file ∧
    d.get? place ≠ some .folder ∧ ∃ content, d'.get? place = some (.file content)
  order : ∀ p : Location → Bool, (∀ place, Touches file place → p place = false) →
    d'.entries.filter (fun x => p x.1) = d.entries.filter fun x => p x.1

theorem Within.refl (file : Location) (d : Disk) : Within file d d where
  places _ := .inl (.inl rfl)
  order _ _ := rfl

/-- Another write changes no more, whether or not it is done. -/
theorem Within.writeFile (h : Within file d d') (sys : System) (text : String) :
    Within file d (writeFile sys d' file text).1 := by
  generalize wrote : Numbering.writeFile sys d' file text = after
  obtain ⟨d'', result⟩ := after
  constructor
  · intro place
    by_cases written : result = .ok () ∧ place = lead file
    · obtain ⟨rfl, rfl⟩ := written
      obtain ⟨-, can⟩ := writable_of_writeFile wrote
      obtain ⟨place, found, held⟩ := Disk.read_eq_ok_iff.1 (read_writeFile wrote)
      obtain rfl := (Disk.resolve_eq_ok_iff_open.1 found).2.2
      refine .inr ⟨rfl, ?_, _, held⟩
      rcases h.places (lead file) with (same | ⟨free, -⟩) | ⟨-, notFolder, -⟩
      · exact same ▸ can.free
      · simp [free]
      · exact notFolder
    · have spared := spared_writeFile wrote fun done same => written ⟨done, same⟩
      rcases h.places place with before | ⟨same, notFolder, content, held⟩
      · exact .inl (before.trans spared)
      · rcases spared with same' | ⟨free, -⟩
        · exact .inr ⟨same, notFolder, content, same'.trans held⟩
        · rw [held] at free
          exact absurd free (by simp)
  · intro p off
    have order := filter_writeFile sys d' text off
    rw [wrote] at order
    exact order.trans (h.order p off)

theorem Within.keepsFolders (h : Within file d d') : Disk.KeepsFolders d d' := by
  intro place folder
  rcases h.places place with (same | ⟨free, -⟩) | ⟨-, notFolder, -⟩
  · exact same.trans folder
  · rw [folder] at free
    exact absurd free (by simp)
  · exact absurd folder notFolder

/-- Off the place of the file, all files stay as they are. -/
theorem Within.get?_file_iff (h : Within file d d') {place : Location} (apart : place ≠ lead file)
    {content : ByteArray} :
    d'.get? place = some (.file content) ↔ d.get? place = some (.file content) := by
  rcases h.places place with (same | ⟨free, folder, -⟩) | ⟨same, -⟩
  · rw [same]
  · simp [free, folder]
  · exact absurd same apart

/-- Off the way to the file, and off its place, everything stays as it is. -/
theorem Within.get?_eq (h : Within file d d') {place : Location} (apart : place ≠ lead file)
    (off : ¬ file.parent.Passes place) : d'.get? place = d.get? place := by
  rcases h.places place with (same | ⟨-, -, passed⟩) | ⟨same, -⟩
  · exact same
  · exact absurd passed off
  · exact absurd same apart

/-- Whether the file can be written does not change. -/
theorem Within.writable_iff (h : Within file d d') :
    Writable marks d' file ↔ Writable marks d file := by
  by_cases ahead : file.parent.Passes (lead file)
  · exact iff_of_false (fun can => can.ahead ahead) fun can => can.ahead ahead
  have clear_iff : d'.Clear file.parent ↔ d.Clear file.parent := by
    apply forall_congr'
    intro place
    apply forall_congr'
    intro passed
    apply forall_congr'
    intro content
    rw [Ne, h.get?_file_iff fun same => ahead (same ▸ passed)]
  have free_iff : d'.get? (lead file) ≠ some .folder ↔ d.get? (lead file) ≠ some .folder := by
    rcases h.places (lead file) with (same | ⟨-, -, passed⟩) | ⟨-, notFolder, content, held⟩
    · rw [same]
    · exact absurd passed ahead
    · exact iff_of_true (by simp [held]) notFolder
  have beside_eq (fit : file.Fit) (clear : d.Clear file.parent) :
      aside marks (d'.makeFolders file.parent).1 (lead file.parent) file.name =
        aside marks (d.makeFolders file.parent).1 (lead file.parent) file.name := by
    obtain ⟨d₁, made, isOpen⟩ := Disk.makeFolders_of_clear (fit_parent fit) clear
    obtain ⟨d₂, made', isOpen'⟩ := Disk.makeFolders_of_clear (fit_parent fit) (clear_iff.2 clear)
    rw [made, made']
    apply aside_congr
    intro m
    generalize beside : lead file.parent ++ [asideName file.name m] = place
    by_cases passed : file.parent.Passes place
    · rw [isOpen _ passed, isOpen' _ passed]
    · have same := Disk.get?_makeFolders d file.parent passed
      have same' := Disk.get?_makeFolders d' file.parent passed
      rw [made] at same
      rw [made'] at same'
      rw [same, same', h.get?_eq (fun at_file => lead_ne_aside file m ?_) passed]
      rw [beside, at_file]
  constructor
  · rintro ⟨clear, fit, -, free, beside⟩
    rw [beside_eq fit (clear_iff.1 clear)] at beside
    exact ⟨clear_iff.1 clear, fit, ahead, free_iff.1 free, beside⟩
  · rintro ⟨clear, fit, -, free, beside⟩
    rw [← beside_eq fit clear] at beside
    exact ⟨clear_iff.2 clear, fit, ahead, free_iff.2 free, beside⟩

end Numbering

end MinuteBook
