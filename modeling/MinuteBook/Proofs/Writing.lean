import MinuteBook.Numbering
import MinuteBook.Proofs.Disk.Ways

/-!
# Writing a file

A text is written aside, under a name that is free (`aside_eq_ok`), and then put in the place of the
file. How far that gets is told once, with the disk that is left (`course_of_writeFile`), and what
is said of a write goes by these cases. What stands at each place afterwards depends on one thing,
whether all steps were done: if so, the file holds the text; if not, nothing is left but the folders
that were made for it (`writes`).
-/

namespace MinuteBook

namespace Numbering

open Disk (MoreFolders Permitted)
open Location (lead passes_lead passes_iff)

variable {sys : System} {marks : List Mark} {d d' : Disk} {file folder : Location}
  {text name : String}

/-! ## The text aside -/

theorem asideName_ne_back (name : String) (m : Mark) : asideName name m ≠ ".." := by
  intro same
  have lengths := congrArg String.length same
  have tail : ".tmp".length = 4 := by decide
  have back : "..".length = 2 := by decide
  simp only [asideName, String.length_append, tail, back] at lengths
  omega

/-- A text is written aside under one of the names that are tried, and there is nothing yet. -/
theorem aside_eq_ok {place : Location} (h : aside marks d folder name = .ok place) :
    ∃ m ∈ marks, place = folder ++ [asideName name m] ∧ d.get? place = none := by
  unfold aside at h
  split at h
  · rename_i m first
    obtain rfl := Except.ok.inj h
    exact ⟨m, List.mem_of_find?_eq_some first, rfl, by simpa using List.find?_some first⟩
  · exact absurd h (by simp)

theorem aside_ne_forbiddenName : aside marks d folder name ≠ .error .forbiddenName := by
  unfold aside
  split <;> simp

theorem permitted_asideName (h : '\x00' ∉ name.toList) (m : Mark) :
    '\x00' ∉ (asideName name m).toList := by
  have mark : '\x00' ∉ m.text := by
    intro inside
    exact absurd (List.all_eq_true.1 m.all_text _ inside) (by decide)
  simp [asideName, h, mark]

/-! ## Steps -/

theorem attempt_eq_ok {step : Step} {run : Except Disk.Error Disk}
    (h : attempt sys step run = .ok d) : sys.refuses step = false ∧ run = .ok d := by
  unfold attempt at h
  split at h
  · exact absurd h (by simp)
  · rename_i allowed
    exact ⟨Bool.eq_false_iff.2 allowed, h⟩

theorem attempt_ne_forbiddenName {step : Step} {run : Except Disk.Error Disk}
    (h : run ≠ .error .forbiddenName) : attempt sys step run ≠ .error .forbiddenName := by
  unfold attempt
  split
  · simp
  · exact h

theorem makeFolders_eq_ok {folder : Location} (h : makeFolders sys d file = (d', .ok folder)) :
    sys.refuses .makeFolders = false ∧ d.makeFolders file.parent = (d', .ok folder) := by
  rw [makeFolders] at h
  split at h
  · exact absurd (Prod.mk.inj h).2 (by simp)
  · rename_i allowed
    exact ⟨Bool.eq_false_iff.2 allowed, h⟩

theorem moreFolders_makeFolders (sys : System) (d : Disk) (file : Location) :
    MoreFolders d (makeFolders sys d file).1 := by
  rw [makeFolders]
  split
  · exact Disk.moreFolders_makeFolders d _
  · exact Disk.moreFolders_makeFolders d _

/-- A write that has made the folders of its file: the disk with them, and the place aside. -/
structure Begun (sys : System) (d : Disk) (file : Location) (d₁ : Disk)
    (place : Location) : Prop where
  made : makeFolders sys d file = (d₁, .ok (lead file.parent))
  beside : aside sys.marks d₁ (lead file.parent) file.name = .ok place

namespace Begun

variable {d₁ d₂ : Disk} {place : Location}

theorem named (h : Begun sys d file d₁ place) :
    ∃ m, place = lead file.parent ++ [asideName file.name m] := by
  obtain ⟨m, -, named, -⟩ := aside_eq_ok h.beside
  exact ⟨m, named⟩

theorem free (h : Begun sys d file d₁ place) : d₁.get? place = none := by
  obtain ⟨m, -, -, free⟩ := aside_eq_ok h.beside
  exact free

theorem no_back (h : Begun sys d file d₁ place) : ".." ∉ place := by
  obtain ⟨m, named⟩ := h.named
  rw [named, List.mem_append, List.mem_singleton, not_or]
  exact ⟨Location.no_back_lead _, (asideName_ne_back _ m).symm⟩

theorem ne_nil (h : Begun sys d file d₁ place) : place ≠ [] :=
  Disk.ne_nil_of_free h.free

/-- Without the text aside, the disk is as it was before the text was written there. -/
theorem get?_erase (h : Begun sys d file d₁ place)
    (away : ∀ other, other ≠ place → d₂.get? other = d₁.get? other) (other : Location) :
    (d₂.erase place).get? other = d₁.get? other := by
  rw [Disk.get?_erase _ _ _ h.ne_nil]
  split
  · rename_i same
    rw [same, h.free]
  · rename_i apart
    exact away other apart

end Begun

/-- The disk with a text aside. -/
def putAside (d : Disk) (place : Location) (text : String) : Disk :=
  (d.put place (.file .empty)).put place (.file text.toUTF8)

theorem get?_putAside {place other : Location} (inside : place ≠ []) :
    (putAside d place text).get? other =
      if other = place then some (.file text.toUTF8) else d.get? other := by
  rw [putAside, Disk.get?_put _ _ _ _ inside, Disk.get?_put _ _ _ _ inside]
  split <;> rfl

/-- How far a write of a file gets, with the disk that is left and the result. -/
inductive Course (sys : System) (d : Disk) (file : Location) (text : String) :
    Disk → Except Disk.Error Unit → Prop where
  | noFolders {d₁ : Disk} {e : Disk.Error} (failed : makeFolders sys d file = (d₁, .error e)) :
      Course sys d file text d₁ (.error e)
  | noName {d₁ : Disk} {e : Disk.Error}
      (made : makeFolders sys d file = (d₁, .ok (lead file.parent)))
      (failed : aside sys.marks d₁ (lead file.parent) file.name = .error e) :
      Course sys d file text d₁ (.error e)
  | notCreated {d₁ : Disk} {place : Location} {e : Disk.Error}
      (begun : Begun sys d file d₁ place)
      (failed : attempt sys .create (d₁.write place .empty) = .error e) :
      Course sys d file text d₁ (.error e)
  | notFilled {d₁ : Disk} {place : Location} {e : Disk.Error}
      (begun : Begun sys d file d₁ place)
      (failed : attempt sys .write
        ((d₁.put place (.file .empty)).write place text.toUTF8) = .error e) :
      Course sys d file text ((d₁.put place (.file .empty)).erase place) (.error e)
  | notReplaced {d₁ : Disk} {place : Location} {e : Disk.Error}
      (begun : Begun sys d file d₁ place)
      (failed : attempt sys .replace ((putAside d₁ place text).replace place file) = .error e) :
      Course sys d file text ((putAside d₁ place text).erase place) (.error e)
  | done {d₁ : Disk} {place : Location} (begun : Begun sys d file d₁ place)
      (allowed : ∀ step, sys.refuses step = false) (fit : place.Fit)
      (found : d₁.resolve file = .ok (lead file)) (notFolder : d₁.get? (lead file) ≠ some .folder) :
      Course sys d file text
        (((putAside d₁ place text).erase place).put (lead file) (.file text.toUTF8)) (.ok ())

/-- A replacement of a file by the text aside, seen from the disk before that text. -/
theorem Begun.replaced {d₁ : Disk} {place : Location} (begun : Begun sys d file d₁ place)
    (h : (putAside d₁ place text).replace place file = .ok d') :
    d₁.resolve file = .ok (lead file) ∧ d₁.get? (lead file) ≠ some .folder ∧
      d' = ((putAside d₁ place text).erase place).put (lead file) (.file text.toUTF8) := by
  have held : (putAside d₁ place text).get? place = some (.file text.toUTF8) := by
    rw [get?_putAside begun.ne_nil, if_pos rfl]
  obtain ⟨target, found, notFolder, rfl⟩ := Disk.replace_eq_ok begun.no_back held h
  obtain rfl := (Disk.resolve_eq_ok_iff_open.1 found).2.2
  have keeps : Disk.KeepsFolders (putAside d₁ place text) d₁ := by
    intro other folder
    rw [get?_putAside begun.ne_nil] at folder
    split at folder
    · exact absurd folder (by simp)
    · exact folder
  refine ⟨Disk.resolve_mono keeps found, ?_, rfl⟩
  rw [get?_putAside begun.ne_nil] at notFolder
  split at notFolder
  · rename_i same
    simp [same, begun.free]
  · exact notFolder

theorem course_of_writeFile {result : Except Disk.Error Unit}
    (h : writeFile sys d file text = (d', result)) : Course sys d file text d' result := by
  unfold writeFile at h
  split at h
  · rename_i failed
    obtain ⟨rfl, rfl⟩ := Prod.mk.inj h
    exact .noFolders failed
  · rename_i d₁ folder made
    obtain ⟨noFolders, made'⟩ := makeFolders_eq_ok made
    obtain rfl := (Disk.open_of_makeFolders made').2.2
    split at h
    · rename_i failed
      obtain ⟨rfl, rfl⟩ := Prod.mk.inj h
      exact .noName made failed
    · rename_i place beside
      have begun : Begun sys d file d₁ place := ⟨made, beside⟩
      split at h
      · rename_i failed
        obtain ⟨rfl, rfl⟩ := Prod.mk.inj h
        exact .notCreated begun failed
      · rename_i created
        obtain ⟨noCreate, created⟩ := attempt_eq_ok created
        obtain ⟨_, resolved, -⟩ := bind_eq_ok.1 created
        obtain ⟨-, rfl⟩ := Disk.write_eq_ok begun.no_back created
        split at h
        · rename_i failed
          obtain ⟨rfl, rfl⟩ := Prod.mk.inj h
          exact .notFilled begun failed
        · rename_i filled
          obtain ⟨noWrite, filled⟩ := attempt_eq_ok filled
          obtain ⟨-, rfl⟩ := Disk.write_eq_ok begun.no_back filled
          split at h
          · rename_i failed
            obtain ⟨rfl, rfl⟩ := Prod.mk.inj h
            exact .notReplaced begun failed
          · rename_i replaced
            obtain ⟨rfl, rfl⟩ := Prod.mk.inj h
            obtain ⟨noReplace, replaced⟩ := attempt_eq_ok replaced
            obtain ⟨found, notFolder, rfl⟩ := begun.replaced replaced
            refine .done begun ?_ (Disk.resolve_eq_ok_iff_open.1 resolved).1 found notFolder
            intro step
            cases step <;> assumption

/-! ## Writing -/

/-- What writing a file leaves on the disk, given the disk with its folders. -/
inductive Writes (sys : System) (d₁ : Disk) (file : Location) (text : String) :
    Disk → Except Disk.Error Unit → Prop where
  /-- Nothing has changed any more. -/
  | given_up {d' : Disk} {e : Disk.Error} (same : ∀ place, d'.get? place = d₁.get? place) :
      Writes sys d₁ file text d' (.error e)
  /-- Every step has been done, and the file holds the text. -/
  | done {d' : Disk} (allowed : ∀ step, sys.refuses step = false)
      (found : d₁.resolve file = .ok (lead file)) (notFolder : d₁.get? (lead file) ≠ some .folder)
      (written : ∀ place, d'.get? place =
        if place = lead file then some (.file text.toUTF8) else d₁.get? place) :
      Writes sys d₁ file text d' (.ok ())

/-- Writing a file changes nothing but its folders and itself. -/
theorem writes {result : Except Disk.Error Unit}
    (h : writeFile sys d file text = (d', result)) :
    Writes sys (makeFolders sys d file).1 file text d' result := by
  cases course_of_writeFile h with
  | noFolders failed =>
      rw [failed]
      exact .given_up fun _ => rfl
  | noName made =>
      rw [made]
      exact .given_up fun _ => rfl
  | notCreated begun =>
      rw [begun.made]
      exact .given_up fun _ => rfl
  | notFilled begun =>
      rw [begun.made]
      refine .given_up (begun.get?_erase fun other apart => ?_)
      rw [Disk.get?_put _ _ _ _ begun.ne_nil, if_neg apart]
  | notReplaced begun =>
      rw [begun.made]
      refine .given_up (begun.get?_erase fun other apart => ?_)
      rw [get?_putAside begun.ne_nil, if_neg apart]
  | done begun allowed _ found notFolder =>
      rw [begun.made]
      refine .done allowed found notFolder fun other => ?_
      have inside : lead file ≠ [] := by
        intro outermost
        rw [outermost, Disk.get?_nil] at notFolder
        exact notFolder rfl
      rw [Disk.get?_put _ _ _ _ inside]
      split
      · rfl
      · apply begun.get?_erase
        intro other apart
        rw [get?_putAside begun.ne_nil, if_neg apart]

/-- A file that is not written leaves all files as they are. -/
theorem moreFolders_writeFile {e : Disk.Error}
    (h : writeFile sys d file text = (d', .error e)) : MoreFolders d d' := by
  cases writes h with
  | given_up same =>
      intro place
      rw [same]
      exact moreFolders_makeFolders sys d file place

/-- A file that is written holds the text. -/
theorem read_writeFile (h : writeFile sys d file text = (d', .ok ())) :
    d'.read file = .ok text.toUTF8 := by
  cases writes h with
  | done allowed found notFolder written =>
      have keeps : Disk.KeepsFolders (makeFolders sys d file).1 d' := by
        intro place folder
        have apart : place ≠ lead file := by
          rintro rfl
          exact notFolder folder
        rw [written, if_neg apart]
        exact folder
      rw [Disk.read_eq_ok_iff]
      exact ⟨lead file, Disk.resolve_mono keeps found, by rw [written, if_pos rfl]⟩

theorem name_permitted (h : Permitted file) : '\x00' ∉ file.name.toList := by
  unfold Location.name
  cases last : file.getLast? with
  | none => simp
  | some name => exact h name (List.mem_of_getLast? last)

theorem permitted_parent (h : Permitted file) : Permitted file.parent :=
  fun name inside => h name (List.dropLast_subset file inside)

theorem Begun.permitted {d₁ : Disk} {place : Location} (begun : Begun sys d file d₁ place)
    (h : Permitted file) : Permitted place := by
  obtain ⟨m, named⟩ := begun.named
  rw [named]
  intro part inside
  rcases List.mem_append.1 inside with way | aside
  · exact permitted_parent h part (Location.mem_lead way).1
  · obtain rfl := List.mem_singleton.1 aside
    exact permitted_asideName (name_permitted h) m

/-- A permitted path is never refused for the characters in it. -/
theorem writeFile_ne_forbiddenName {e : Disk.Error} (permitted : Permitted file)
    (h : writeFile sys d file text = (d', .error e)) : e ≠ .forbiddenName := by
  rintro rfl
  cases course_of_writeFile h with
  | noFolders failed =>
      rw [makeFolders] at failed
      split at failed
      · exact absurd (Prod.mk.inj failed).2 (by simp)
      · exact Disk.makeFolders_ne_forbiddenName (permitted_parent permitted)
          (congrArg Prod.snd failed)
  | noName _ failed => exact aside_ne_forbiddenName failed
  | notCreated begun failed =>
      have inside := begun.permitted permitted
      exact attempt_ne_forbiddenName (Disk.write_ne_forbiddenName inside _) failed
  | notFilled begun failed =>
      have inside := begun.permitted permitted
      exact attempt_ne_forbiddenName (Disk.write_ne_forbiddenName inside _) failed
  | notReplaced begun failed =>
      have inside := begun.permitted permitted
      exact attempt_ne_forbiddenName (Disk.replace_ne_forbiddenName inside permitted) failed

end Numbering

end MinuteBook
