import MinuteBook.Disk
import MinuteBook.Proofs.Attempts

/-!
# What operations leave on the disk

Paths are followed through folders alone, so a path that leads to a place goes on leading there as
long as no folder is taken away. `MoreFolders` says that a disk differs from another by new folders
only: that is all that the way to a file may leave behind. A path then reads as it did, provided
that it can be followed at all (`Leads`).
-/

namespace MinuteBook

namespace Disk

variable {d d' d'' : Disk} {place here path file : Location} {names : List String} {e : Error}

theorem get?_nil (d : Disk) : d.get? [] = some .folder := if_pos rfl

theorem ne_nil_of_free (h : d.get? place = none) : place ≠ [] := by
  rintro rfl
  exact absurd h (by simp [get?_nil])

theorem get?_erase (d : Disk) (place other : Location) (h : place ≠ []) :
    (d.erase place).get? other = if other = place then none else d.get? other := by
  by_cases ho : other = []
  · subst ho
    simp [get?, Ne.symm h]
  · simp only [get?, ho, if_false, erase]
    induction d.entries with
    | nil => simp
    | cons x xs ih =>
        obtain ⟨l, x⟩ := x
        by_cases hl : l = place
        · subst hl
          rw [List.filter_cons_of_neg (by simp), ih, List.lookup_cons]
          by_cases hk : other = l
          · simp [hk]
          · simp [hk, beq_eq_false_iff_ne.2 hk]
        · rw [List.filter_cons_of_pos (by simpa using hl), List.lookup_cons, List.lookup_cons, ih]
          by_cases hk : other = l
          · subst hk
            simp [hl]
          · simp [beq_eq_false_iff_ne.2 hk]

/-! ## Following a path -/

/-- Every folder of one disk is a folder of the other. -/
def KeepsFolders (d d' : Disk) : Prop :=
  ∀ place, d.get? place = some .folder → d'.get? place = some .folder

theorem walk_mono (keeps : KeepsFolders d d') (h : d.walk here names = .ok place) :
    d'.walk here names = .ok place := by
  induction names generalizing here with
  | nil => exact h
  | cons name rest ih =>
      cases at_here : d.get? here with
      | none => simp [walk, at_here] at h
      | some entry =>
          cases entry with
          | file content => simp [walk, at_here] at h
          | folder =>
              simp only [walk, at_here, keeps here at_here] at h ⊢
              split
              · rename_i back
                rw [if_pos back] at h
                exact ih h
              · rename_i back
                rw [if_neg back] at h
                split
                · rename_i long
                  simp [if_pos long] at h
                · rename_i long
                  rw [if_neg long] at h
                  exact ih h

theorem resolve_eq_ok_iff : d.resolve path = .ok place ↔
    ¬ (path.any fun name => name.toList.contains '\x00') = true ∧
      ¬ maxPath < path.text.utf8ByteSize ∧ d.walk [] path = .ok place := by
  unfold resolve
  split
  · simp_all
  · split <;> simp_all

/-- A path that leads to a place leads there as long as no folder is taken away. -/
theorem resolve_mono (keeps : KeepsFolders d d') (h : d.resolve path = .ok place) :
    d'.resolve path = .ok place := by
  rw [resolve_eq_ok_iff] at h ⊢
  exact ⟨h.1, h.2.1, walk_mono keeps h.2.2⟩

/-- Without a way back, the place is the path itself. -/
theorem walk_of_no_back (noBack : ".." ∉ names) (h : d.walk here names = .ok place) :
    place = here ++ names := by
  induction names generalizing here with
  | nil =>
      obtain rfl := Except.ok.inj h
      exact (List.append_nil here).symm
  | cons name rest ih =>
      rw [List.mem_cons, not_or] at noBack
      unfold walk at h
      split at h
      · exact absurd h (by simp)
      · exact absurd h (by simp)
      · rw [if_neg (Ne.symm noBack.1)] at h
        split at h
        · exact absurd h (by simp)
        · rw [ih noBack.2 h, List.append_assoc, List.singleton_append]

theorem resolve_of_no_back (noBack : ".." ∉ path) (h : d.resolve path = .ok place) :
    place = path := by
  rw [resolve_eq_ok_iff] at h
  rw [walk_of_no_back noBack h.2.2, List.nil_append]

/-! ## Forbidden names -/

/-- No name on a path holds the character NUL. -/
def Permitted (path : Location) : Prop := ∀ name ∈ path, '\x00' ∉ name.toList

theorem permitted_iff : Permitted path ↔
    ¬ (path.any fun name => name.toList.contains '\x00') = true := by
  simp [Permitted]

theorem walk_ne_forbiddenName (d : Disk) (here : Location) (names : List String) :
    d.walk here names ≠ .error .forbiddenName := by
  fun_induction d.walk here names with
  | case1 => simp
  | case2 => simp
  | case3 => simp
  | case4 => assumption
  | case5 => simp
  | case6 => assumption

theorem resolve_ne_forbiddenName (h : Permitted path) :
    d.resolve path ≠ .error .forbiddenName := by
  rw [permitted_iff] at h
  unfold resolve
  rw [if_neg h]
  split
  · simp
  · exact walk_ne_forbiddenName d [] path

/-! ## New folders -/

/-- The second disk differs from the first by new folders only. -/
def MoreFolders (d d' : Disk) : Prop :=
  ∀ place, d'.get? place = d.get? place ∨ d.get? place = none ∧ d'.get? place = some .folder

theorem MoreFolders.refl (d : Disk) : MoreFolders d d := fun _ => .inl rfl

theorem MoreFolders.trans (h : MoreFolders d d') (h' : MoreFolders d' d'') :
    MoreFolders d d'' := by
  intro place
  rcases h' place with same | ⟨none, folder⟩
  · rw [same]
    exact h place
  · rcases h place with same | ⟨none', _⟩
    · exact .inr ⟨same ▸ none, folder⟩
    · exact .inr ⟨none', folder⟩

theorem MoreFolders.keepsFolders (h : MoreFolders d d') : KeepsFolders d d' := by
  intro place folder
  rcases h place with same | ⟨none, _⟩
  · rw [same, folder]
  · rw [folder] at none
    exact absurd none (by simp)

/-- The files are the same on both disks. -/
theorem MoreFolders.get?_file_iff (h : MoreFolders d d') {content : ByteArray} :
    d'.get? place = some (.file content) ↔ d.get? place = some (.file content) := by
  rcases h place with same | ⟨none, folder⟩
  · rw [same]
  · simp [none, folder]

theorem moreFolders_put (h : d.get? place = none) : MoreFolders d (d.put place .folder) := by
  have inside : place ≠ [] := by
    rintro rfl
    exact absurd h (by simp [get?_nil])
  intro other
  rw [get?_put d place .folder other inside]
  split
  · rename_i same
    exact .inr ⟨same ▸ h, rfl⟩
  · exact .inl rfl

theorem makeFolder_eq_ok (h : d.makeFolder path = .ok (d', place)) :
    MoreFolders d d' ∧ d.resolve path = .ok place := by
  unfold makeFolder at h
  cases found : d.resolve path with
  | error e => simp [found, bind, Except.bind] at h
  | ok p =>
      simp only [found, bind, Except.bind] at h
      split at h
      · obtain ⟨rfl, rfl⟩ := Prod.mk.inj (Except.ok.inj h)
        exact ⟨.refl d, rfl⟩
      · exact absurd h (by simp [throw, throwThe, MonadExceptOf.throw])
      · rename_i free
        obtain ⟨rfl, rfl⟩ := Prod.mk.inj (Except.ok.inj h)
        exact ⟨moreFolders_put free, rfl⟩

/-- Making folders adds folders, whether or not all of them are made. -/
theorem moreFolders_makeFolders (d : Disk) (path : Location) :
    MoreFolders d (d.makeFolders path).1 := by
  fun_induction d.makeFolders path with
  | case1 =>
      rename_i made
      exact (makeFolder_eq_ok made).1
  | case2 => exact .refl d
  | case3 =>
      rename_i outer ih
      rw [outer] at ih
      exact ih
  | case4 =>
      rename_i outer _ _ made ih
      rw [outer] at ih
      exact ih.trans (makeFolder_eq_ok made).1
  | case5 =>
      rename_i outer _ _ ih
      rw [outer] at ih
      exact ih
  | case6 => exact .refl d

theorem makeFolder_ne_forbiddenName (h : Permitted path) :
    d.makeFolder path ≠ .error .forbiddenName := by
  unfold makeFolder
  intro failed
  rcases bind_eq_error.1 failed with unresolved | ⟨place, -, refused⟩
  · exact resolve_ne_forbiddenName h unresolved
  · split at refused <;> simp [throw, throwThe, MonadExceptOf.throw, pure, Except.pure] at refused

theorem makeFolders_ne_forbiddenName (h : Permitted path) :
    (d.makeFolders path).2 ≠ .error .forbiddenName := by
  fun_induction d.makeFolders path with
  | case1 => simp
  | case2 => simp
  | case3 =>
      rename_i outer ih
      rw [outer] at ih
      exact ih fun name inside => h name (List.dropLast_subset _ inside)
  | case4 => simp
  | case5 =>
      rename_i made _
      intro forbidden
      obtain rfl := Except.error.inj forbidden
      exact makeFolder_ne_forbiddenName h made
  | case6 =>
      rename_i made
      intro forbidden
      obtain rfl := Except.error.inj forbidden
      exact makeFolder_ne_forbiddenName h made

/-! ## Writing -/

theorem write_ne_forbiddenName (h : Permitted path) (content : ByteArray) :
    d.write path content ≠ .error .forbiddenName := by
  unfold write
  intro failed
  rcases bind_eq_error.1 failed with unresolved | ⟨place, -, refused⟩
  · exact resolve_ne_forbiddenName h unresolved
  · split at refused <;> simp [throw, throwThe, MonadExceptOf.throw, pure, Except.pure] at refused

theorem replace_ne_forbiddenName (h : Permitted path) (h' : Permitted file) :
    d.replace path file ≠ .error .forbiddenName := by
  unfold replace
  intro failed
  rcases bind_eq_error.1 failed with unresolved | ⟨source, -, failed⟩
  · exact resolve_ne_forbiddenName h unresolved
  rcases bind_eq_error.1 failed with unresolved | ⟨target, -, refused⟩
  · exact resolve_ne_forbiddenName h' unresolved
  · split at refused
    · split at refused <;> simp [throw, throwThe, MonadExceptOf.throw, pure, Except.pure] at refused
    · simp [throw, throwThe, MonadExceptOf.throw] at refused
    · simp [throw, throwThe, MonadExceptOf.throw] at refused

theorem write_eq_ok {content : ByteArray} (noBack : ".." ∉ path)
    (h : d.write path content = .ok d') :
    d.get? path ≠ some .folder ∧ d' = d.put path (.file content) := by
  unfold write at h
  cases found : d.resolve path with
  | error e => simp [found, bind, Except.bind] at h
  | ok p =>
      simp only [found, bind, Except.bind] at h
      obtain rfl := resolve_of_no_back noBack found
      split at h
      · exact absurd h (by simp [throw, throwThe, MonadExceptOf.throw])
      · rename_i folder
        exact ⟨folder, (Except.ok.inj h).symm⟩

/-- Moving a file puts it over what is at the end of a path. -/
theorem replace_eq_ok {content : ByteArray} (noBack : ".." ∉ place)
    (held : d.get? place = some (.file content)) (h : d.replace place file = .ok d') :
    ∃ target, d.resolve file = .ok target ∧ d.get? target ≠ some .folder ∧
      d' = (d.erase place).put target (.file content) := by
  unfold replace at h
  cases source : d.resolve place with
  | error e => simp [source, bind, Except.bind] at h
  | ok p =>
      obtain rfl := resolve_of_no_back noBack source
      cases found : d.resolve file with
      | error e => simp [source, found, bind, Except.bind] at h
      | ok target =>
          simp only [source, found, held, bind, Except.bind] at h
          split at h
          · exact absurd h (by simp [throw, throwThe, MonadExceptOf.throw])
          · rename_i folder
            exact ⟨target, rfl, folder, (Except.ok.inj h).symm⟩

/-! ## Reading -/

/-- A path that can be followed: it leads to a place, or else there is no file at its end and it
never leads back out of a folder that is still missing. -/
def Leads (d : Disk) (path : Location) : Prop :=
  (∃ place, d.resolve path = .ok place) ∨
    ".." ∉ path ∧ ∀ content, d.get? path ≠ some (.file content)

theorem Leads.moreFolders (leads : Leads d path) (more : MoreFolders d d') : Leads d' path := by
  rcases leads with ⟨place, found⟩ | ⟨noBack, free⟩
  · exact .inl ⟨place, resolve_mono more.keepsFolders found⟩
  · exact .inr ⟨noBack, fun content at_path => free content (more.get?_file_iff.1 at_path)⟩

theorem read_eq_ok_iff {content : ByteArray} : d.read path = .ok content ↔
    ∃ place, d.resolve path = .ok place ∧ d.get? place = some (.file content) := by
  unfold read
  cases found : d.resolve path with
  | error e => simp [bind, Except.bind]
  | ok place =>
      cases at_place : d.get? place with
      | none => simp [bind, Except.bind, at_place, throw, throwThe, MonadExceptOf.throw]
      | some entry =>
          cases entry with
          | folder => simp [bind, Except.bind, at_place, throw, throwThe, MonadExceptOf.throw]
          | file other => simp [bind, Except.bind, at_place, pure, Except.pure]

/-- New folders change nothing of what is read at the end of a path. -/
theorem Leads.read_iff (leads : Leads d path) (more : MoreFolders d d') {content : ByteArray} :
    d'.read path = .ok content ↔ d.read path = .ok content := by
  rw [read_eq_ok_iff, read_eq_ok_iff]
  constructor
  · rintro ⟨place, found', held⟩
    rw [more.get?_file_iff] at held
    rcases leads with ⟨_, found⟩ | ⟨noBack, free⟩
    · rw [resolve_mono more.keepsFolders found] at found'
      obtain rfl := Except.ok.inj found'
      exact ⟨_, found, held⟩
    · rw [resolve_of_no_back noBack found'] at held
      exact absurd held (free content)
  · rintro ⟨place, found, held⟩
    exact ⟨place, resolve_mono more.keepsFolders found, more.get?_file_iff.2 held⟩

end Disk

end MinuteBook
