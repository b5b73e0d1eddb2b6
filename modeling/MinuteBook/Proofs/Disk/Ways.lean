import Mathlib.Data.List.Induction
import MinuteBook.Proofs.Disk

/-!
# Ways

Where a path leads is told by its names alone (`Location.lead`). The disk decides whether it can be
followed: every place on it but the last must be a folder (`resolve_eq_ok_iff_open`). So the folders
of a path can be made if its names are fit for the disk and no file lies on it
(`makeFolders_of_clear`), and once they have been made the places on it are folders
(`open_of_makeFolders`) and everything else is as it was.
-/

namespace MinuteBook

namespace Location

variable {path place names : Location} {name : String}

/-- One name further on the way. -/
def next (here : Location) (name : String) : Location :=
  if name = ".." then here.dropLast else here ++ [name]

/-- The place to which a path leads. -/
def lead (path : Location) : Location := path.foldl next []

/-- Says whether a place lies on a path, so that a part of the path leads there. -/
def Passes (path place : Location) : Prop := ∃ names, names <+: path ∧ lead names = place

@[simp] theorem lead_nil : lead [] = [] := rfl

@[simp] theorem lead_concat (path : Location) (name : String) :
    lead (path ++ [name]) = next (lead path) name := by
  rw [lead, List.foldl_append]
  rfl

/-- No name on the place to which a path leads is a way back. -/
theorem mem_lead (h : name ∈ lead path) : name ∈ path ∧ name ≠ ".." := by
  induction path using List.reverseRecOn with
  | nil => exact absurd h List.not_mem_nil
  | append_singleton path last ih =>
      rw [lead_concat, next] at h
      split at h
      · obtain ⟨inside, forward⟩ := ih (List.dropLast_subset _ h)
        exact ⟨List.mem_append_left [last] inside, forward⟩
      · rename_i forward
        rcases List.mem_append.1 h with old | new
        · obtain ⟨inside, forward⟩ := ih old
          exact ⟨List.mem_append_left [last] inside, forward⟩
        · obtain rfl := List.mem_singleton.1 new
          exact ⟨List.mem_append_right path (List.mem_singleton_self name), forward⟩

theorem no_back_lead (path : Location) : ".." ∉ lead path := fun back => (mem_lead back).2 rfl

theorem passes_lead (path : Location) : path.Passes path.lead := ⟨path, List.prefix_refl path, rfl⟩

/-- The way to a place before the end of a path is part of its way. -/
theorem Passes.of_take {n : Nat} (h : Passes (path.take n) place) : path.Passes place := by
  obtain ⟨names, first, leads⟩ := h
  exact ⟨names, first.trans (List.take_prefix n path), leads⟩

theorem passes_nil : Passes [] place ↔ place = [] := by
  constructor
  · rintro ⟨names, first, rfl⟩
    rw [List.prefix_nil.1 first, lead_nil]
  · rintro rfl
    exact passes_lead []

@[simp] theorem parent_concat (path : Location) (name : String) : parent (path ++ [name]) = path :=
  List.dropLast_concat

/-- A place lies on a path if it lies on the way to its end, or is its end. -/
theorem passes_iff : path.Passes place ↔ path.parent.Passes place ∨ path.lead = place := by
  cases path using List.reverseRecOn with
  | nil => simp [parent, passes_nil, eq_comm]
  | append_singleton path name =>
      rw [parent_concat]
      constructor
      · rintro ⟨names, first, rfl⟩
        rcases List.prefix_concat_iff.1 first with rfl | first
        · exact .inr rfl
        · exact .inl ⟨names, first, rfl⟩
      · rintro (⟨names, first, rfl⟩ | rfl)
        · exact ⟨names, first.trans (List.prefix_append path [name]), rfl⟩
        · exact passes_lead _

/-- A path whose names can be those of a path on a disk. -/
structure Fit (path : Location) : Prop where
  permitted : Disk.Permitted path
  whole : path.text.utf8ByteSize ≤ Disk.maxPath
  names : ∀ name ∈ path, name = ".." ∨ name.utf8ByteSize ≤ Disk.maxName

theorem size_text_le_concat (path : Location) (name : String) :
    path.text.utf8ByteSize ≤ (text (path ++ [name])).utf8ByteSize := by
  by_cases empty : path = []
  · subst empty
    exact Nat.zero_le _
  · rw [text, text, String.intercalate_append_of_ne_nil empty (by simp), String.utf8ByteSize_append,
      String.utf8ByteSize_append]
    omega

theorem Fit.of_concat (fit : Fit (path ++ [name])) : path.Fit where
  permitted n inside := fit.permitted n (List.mem_append_left [name] inside)
  whole := Nat.le_trans (size_text_le_concat path name) fit.whole
  names n inside := fit.names n (List.mem_append_left [name] inside)

end Location

namespace Disk

open Location (lead next passes_lead passes_nil passes_iff lead_concat lead_nil parent_concat)

variable {d d' : Disk} {path place here : Location} {name : String}

/-- Every place on a path is a folder. -/
def Open (d : Disk) (path : Location) : Prop :=
  ∀ place, path.Passes place → d.get? place = some .folder

/-- No place on a path is a file. -/
def Clear (d : Disk) (path : Location) : Prop :=
  ∀ place, path.Passes place → ∀ content, d.get? place ≠ some (.file content)

theorem open_nil (d : Disk) : d.Open [] := by
  intro place passed
  rw [passes_nil.1 passed]
  exact get?_nil d

theorem open_iff : d.Open path ↔ d.Open path.parent ∧ d.get? (lead path) = some .folder := by
  constructor
  · intro whole
    exact ⟨fun place passed => whole place (passes_iff.2 (.inl passed)), whole _ (passes_lead path)⟩
  · rintro ⟨first, last⟩ place passed
    rcases passes_iff.1 passed with before | rfl
    · exact first place before
    · exact last

theorem clear_iff : d.Clear path ↔
    d.Clear path.parent ∧ ∀ content, d.get? (lead path) ≠ some (.file content) := by
  constructor
  · intro whole
    exact ⟨fun place passed => whole place (passes_iff.2 (.inl passed)), whole _ (passes_lead path)⟩
  · rintro ⟨first, last⟩ place passed
    rcases passes_iff.1 passed with before | rfl
    · exact first place before
    · exact last

theorem Open.clear (isOpen : d.Open path) : d.Clear path := by
  intro place passed content held
  rw [isOpen place passed] at held
  exact absurd held (by simp)

/-- Whether a path is clear depends on the files alone. -/
theorem MoreFolders.clear_iff (more : MoreFolders d d') : d'.Clear path ↔ d.Clear path := by
  constructor
  · exact fun clear place passed content held =>
      clear place passed content (more.get?_file_iff.2 held)
  · exact fun clear place passed content held =>
      clear place passed content (more.get?_file_iff.1 held)

/-! ## Following a path -/

theorem walk_concat (d : Disk) (here : Location) (path : Location) (name : String) :
    d.walk here (path ++ [name]) = (d.walk here path).bind fun place => d.walk place [name] := by
  induction path generalizing here with
  | nil => rfl
  | cons first rest ih =>
      rw [List.cons_append, walk, walk]
      cases d.get? here with
      | none => rfl
      | some e =>
          cases e with
          | file content => rfl
          | folder =>
              simp only
              split
              · exact ih _
              · split
                · rfl
                · exact ih _

theorem walk_one_eq_ok_iff : d.walk here [name] = .ok place ↔
    d.get? here = some .folder ∧ (name = ".." ∨ name.utf8ByteSize ≤ maxName) ∧
      next here name = place := by
  rw [walk]
  cases at_here : d.get? here with
  | none => simp
  | some e =>
      cases e with
      | file content => simp
      | folder =>
          by_cases back : name = ".."
          · simp [back, next, walk]
          · simp only [next, if_neg back, walk]
            split
            · simp [back]
              omega
            · simp [back]
              omega

theorem walk_eq_ok_iff : d.walk [] path = .ok place ↔
    d.Open path.parent ∧ (∀ name ∈ path, name = ".." ∨ name.utf8ByteSize ≤ maxName) ∧
      path.lead = place := by
  induction path using List.reverseRecOn generalizing place with
  | nil =>
      rw [walk, Location.parent, List.dropLast_nil, lead_nil, Except.ok.injEq]
      simp [open_nil]
  | append_singleton path name ih =>
      rw [lead_concat, parent_concat, List.forall_mem_append, List.forall_mem_singleton]
      have followed : d.walk [] (path ++ [name]) = .ok place ↔
          ∃ here, d.walk [] path = .ok here ∧ d.walk here [name] = .ok place := by
        rw [walk_concat]
        cases d.walk [] path <;> simp [Except.bind]
      rw [followed]
      constructor
      · rintro ⟨here, first, last⟩
        obtain ⟨before, short, rfl⟩ := ih.1 first
        obtain ⟨folder, short', rfl⟩ := walk_one_eq_ok_iff.1 last
        exact ⟨open_iff.2 ⟨before, folder⟩, ⟨short, short'⟩, rfl⟩
      · rintro ⟨whole, ⟨short, short'⟩, rfl⟩
        obtain ⟨before, folder⟩ := open_iff.1 whole
        exact ⟨lead path, ih.2 ⟨before, short, rfl⟩, walk_one_eq_ok_iff.2 ⟨folder, short', rfl⟩⟩

theorem resolve_eq_ok_iff_open : d.resolve path = .ok place ↔
    path.Fit ∧ d.Open path.parent ∧ path.lead = place := by
  rw [resolve_eq_ok_iff, walk_eq_ok_iff, ← permitted_iff, Nat.not_lt]
  constructor
  · rintro ⟨permitted, whole, before, names, leads⟩
    exact ⟨⟨permitted, whole, names⟩, before, leads⟩
  · rintro ⟨⟨permitted, whole, names⟩, before, leads⟩
    exact ⟨permitted, whole, before, names, leads⟩

/-- A fit path past no file leads somewhere, or there is a folder missing on it. -/
theorem walk_of_clear (names : ∀ name ∈ path, name = ".." ∨ name.utf8ByteSize ≤ maxName)
    (clear : d.Clear path.parent) :
    d.walk [] path = .ok path.lead ∨ d.walk [] path = .error .missing := by
  induction path using List.reverseRecOn with
  | nil => exact .inl rfl
  | append_singleton path name ih =>
      rw [List.forall_mem_append, List.forall_mem_singleton] at names
      rw [parent_concat] at clear
      rw [walk_concat]
      rcases ih names.1 (clear_iff.1 clear).1 with found | missing
      · rw [found, Except.bind, lead_concat]
        cases held : d.get? (lead path) with
        | none =>
            apply Or.inr
            rw [walk, held]
        | some e =>
            cases e with
            | file content => exact absurd held (clear _ (passes_lead path) content)
            | folder => exact .inl (walk_one_eq_ok_iff.2 ⟨held, names.2, rfl⟩)
      · rw [missing]
        exact .inr rfl

theorem resolve_of_clear (fit : path.Fit) (clear : d.Clear path.parent) :
    d.resolve path = .ok path.lead ∨ d.resolve path = .error .missing := by
  rw [resolve, if_neg (permitted_iff.1 fit.permitted), if_neg (Nat.not_lt.2 fit.whole)]
  exact walk_of_clear fit.names clear

/-! ## Making the folders of a path -/

/-- The end of a path is made a folder, if the way to it is there and it is no file. -/
theorem makeFolder_of_open (fit : path.Fit) (isOpen : d.Open path.parent)
    (clear : ∀ content, d.get? path.lead ≠ some (.file content)) :
    ∃ d', d.makeFolder path = .ok (d', path.lead) ∧ d'.get? path.lead = some .folder := by
  have found : d.resolve path = .ok path.lead := resolve_eq_ok_iff_open.2 ⟨fit, isOpen, rfl⟩
  rw [makeFolder, found, ok_bind]
  cases held : d.get? path.lead with
  | none =>
      have inside : path.lead ≠ [] := by
        intro outermost
        rw [outermost, get?_nil] at held
        exact absurd held (by simp)
      refine ⟨_, rfl, ?_⟩
      rw [get?_put _ _ _ _ inside, if_pos rfl]
  | some e =>
      cases e with
      | folder => exact ⟨d, rfl, held⟩
      | file content => exact absurd held (clear content)

theorem Open.moreFolders (isOpen : d.Open path) (more : MoreFolders d d') : d'.Open path :=
  fun place passed => more.keepsFolders place (isOpen place passed)

/-- On a fit path without files all folders are made. -/
theorem makeFolders_of_clear (fit : path.Fit) (clear : d.Clear path) :
    ∃ d', d.makeFolders path = (d', .ok (lead path)) ∧ d'.Open path := by
  induction path using List.reverseRecOn with
  | nil => exact ⟨d, by rw [makeFolders]; rfl, open_nil d⟩
  | append_singleton path name ih =>
      obtain ⟨before, last⟩ := clear_iff.1 clear
      rcases resolve_of_clear fit before with found | missing
      · have way := (resolve_eq_ok_iff_open.1 found).2.1
        obtain ⟨d', made, folder⟩ := makeFolder_of_open fit way last
        refine ⟨d', ?_, open_iff.2 ⟨way.moreFolders (makeFolder_eq_ok made).1, folder⟩⟩
        rw [makeFolders, made]
      · rw [parent_concat] at before
        obtain ⟨d₁, made₁, way⟩ := ih fit.of_concat before
        have more : MoreFolders d d₁ := by
          have more := moreFolders_makeFolders d path
          rw [made₁] at more
          exact more
        rw [← parent_concat path name] at way
        obtain ⟨d', made, folder⟩ := makeFolder_of_open fit way
          fun content held => last content (more.get?_file_iff.1 held)
        refine ⟨d', ?_, open_iff.2 ⟨way.moreFolders (makeFolder_eq_ok made).1, folder⟩⟩
        have absent : d.makeFolder (path ++ [name]) = .error .missing := by
          rw [makeFolder, missing]
          rfl
        rw [makeFolders, absent]
        simp only [List.append_eq_nil_iff, List.cons_ne_nil, and_false, dite_false,
          List.dropLast_concat, made₁, made]

theorem makeFolder_eq_ok_open (h : d.makeFolder path = .ok (d', place)) :
    path.Fit ∧ d'.Open path ∧ lead path = place := by
  obtain ⟨more, found⟩ := makeFolder_eq_ok h
  obtain ⟨fit, way, rfl⟩ := resolve_eq_ok_iff_open.1 found
  obtain ⟨d₁, made, folder⟩ := makeFolder_of_open fit way fun content held => by
    rw [makeFolder, found, ok_bind, held] at h
    exact absurd h (by simp [throw, throwThe, MonadExceptOf.throw])
  rw [made] at h
  obtain ⟨rfl, -⟩ := Prod.mk.inj (Except.ok.inj h)
  exact ⟨fit, open_iff.2 ⟨way.moreFolders more, folder⟩, rfl⟩

/-- When the folders of a path have been made, the path is a fit one of folders. -/
theorem open_of_makeFolders (h : d.makeFolders path = (d', .ok place)) :
    path.Fit ∧ d'.Open path ∧ lead path = place := by
  rw [makeFolders] at h
  split at h
  · rename_i made
    obtain ⟨rfl, same⟩ := Prod.mk.inj h
    obtain rfl := Except.ok.inj same
    exact makeFolder_eq_ok_open made
  · split at h
    · exact absurd (Prod.mk.inj h).2 (by simp)
    · split at h
      · exact absurd (Prod.mk.inj h).2 (by simp)
      · split at h
        · rename_i made
          obtain ⟨rfl, same⟩ := Prod.mk.inj h
          obtain rfl := Except.ok.inj same
          exact makeFolder_eq_ok_open made
        · exact absurd (Prod.mk.inj h).2 (by simp)
  · exact absurd (Prod.mk.inj h).2 (by simp)

/-- Making a folder changes nothing but the end of its path. -/
theorem get?_makeFolder (h : d.makeFolder path = .ok (d', here)) (apart : lead path ≠ place) :
    d'.get? place = d.get? place := by
  obtain ⟨more, found⟩ := makeFolder_eq_ok h
  obtain rfl := (resolve_eq_ok_iff_open.1 found).2.2
  rw [makeFolder, found, ok_bind] at h
  split at h
  · obtain ⟨rfl, -⟩ := Prod.mk.inj (Except.ok.inj h)
    rfl
  · exact absurd h (by simp [throw, throwThe, MonadExceptOf.throw])
  · rename_i free
    obtain ⟨rfl, -⟩ := Prod.mk.inj (Except.ok.inj h)
    have inside : lead path ≠ [] := by
      intro outermost
      rw [outermost, get?_nil] at free
      exact absurd free (by simp)
    rw [get?_put _ _ _ _ inside, if_neg (Ne.symm apart)]

/-- Whether or not all folders of a path are made, nothing changes apart from the path. -/
theorem get?_makeFolders (d : Disk) (path : Location) (apart : ¬ path.Passes place) :
    (d.makeFolders path).1.get? place = d.get? place := by
  fun_induction d.makeFolders path with
  | case1 =>
      rename_i made
      exact get?_makeFolder made fun same => apart (passes_iff.2 (.inr same))
  | case2 => rfl
  | case3 =>
      rename_i outer ih
      rw [outer] at ih
      exact ih fun passed => apart (passes_iff.2 (.inl passed))
  | case4 =>
      rename_i outer _ _ made ih
      rw [outer] at ih
      rw [get?_makeFolder made fun same => apart (passes_iff.2 (.inr same))]
      exact ih fun passed => apart (passes_iff.2 (.inl passed))
  | case5 =>
      rename_i outer _ _ ih
      rw [outer] at ih
      exact ih fun passed => apart (passes_iff.2 (.inl passed))
  | case6 => rfl

end Disk

end MinuteBook
