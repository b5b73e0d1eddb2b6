import MinuteBook.Proofs.Catalogue.Files
import MinuteBook.Proofs.Rewriting
import MinuteBook.Service

/-!
# Starting again

A service that starts reads its templates and its entities. If the file of its register is apart
from them (`Places.Apart`), no write of the register changes what is read, so a service that starts
again has the same templates and entities; only its numbers are those of the file
(`Service.restart_again`).
-/

namespace MinuteBook

open Location (lead)
open MinuteBook.Numbering (Within Touches)

/-- The file of the register is apart from the templates and the entities: no template file is at
its place or on the way to it, and the file of the entities is not at its place, nor becomes a
folder on the way to it. The paths of the register and of the entities lead somewhere, or never out
of a folder that is missing. -/
structure Places.Apart (places : Places) (d : Disk) : Prop where
  templates : ∀ place, places.register.parent.Passes place ∨ place = lead places.register →
    place.parent = lead places.templates → Catalogue.isTemplateFile place.name = false
  entities : lead places.entities ≠ lead places.register
  kept : places.register.parent.Passes (lead places.entities) → d.get? (lead places.entities) ≠ none
  toEntities : (∃ place, d.resolve places.entities = .ok place) ∨
    places.entities.Fit ∧ ".." ∉ places.entities ∧ d.get? places.entities = none
  toRegister : d.Leads places.register

/-! ## Paths -/

namespace Disk

variable {d d' : Disk} {path : Location} {content : ByteArray}

theorem walk_ne_nameTooLong (d : Disk) (here : Location) {names : List String}
    (fit : ∀ name ∈ names, name = ".." ∨ name.utf8ByteSize ≤ maxName) :
    d.walk here names ≠ .error .nameTooLong := by
  fun_induction d.walk here names with
  | case1 => simp
  | case2 => simp
  | case3 => simp
  | case4 here rest _ ih => exact ih (List.forall_mem_cons.1 fit).2
  | case5 here name rest _ forward long =>
      have short := (List.forall_mem_cons.1 fit).1.resolve_left forward
      omega
  | case6 here name rest _ _ _ ih => exact ih (List.forall_mem_cons.1 fit).2

theorem resolve_ne_nameTooLong (fit : path.Fit) : d.resolve path ≠ .error .nameTooLong := by
  rw [resolve, if_neg (permitted_iff.1 fit.permitted), if_neg (Nat.not_lt.2 fit.whole)]
  exact walk_ne_nameTooLong d [] fit.names

end Disk

theorem Numbering.Within.read_eq_ok {file path : Location} {d d' : Disk} {content : ByteArray}
    (h : Within file d d') (apart : lead path ≠ lead file) (read : d.read path = .ok content) :
    d'.read path = .ok content := by
  rw [Disk.read_eq_ok_iff] at read ⊢
  obtain ⟨place, found, held⟩ := read
  obtain rfl := (Disk.resolve_eq_ok_iff_open.1 found).2.2
  exact ⟨_, Disk.resolve_mono h.keepsFolders found, (h.get?_file_iff apart).2 held⟩

/-! ## Templates -/

namespace Catalogue

variable {reader : DataFile.Reader} {d d' : Disk} {folder place : Location} {c c' : Catalogue}
  {names : List String}

/-- Says whether a place is that of a template file in a folder. -/
def holdsTemplate (folder place : Location) : Bool :=
  decide (place ≠ [] ∧ place.parent = folder) && isTemplateFile place.name

theorem filter_names (folder : Location) (entries : List (Location × Entry)) :
    (entries.filterMap fun x =>
      if x.1 ≠ [] ∧ x.1.parent = folder then some x.1.name else none).filter isTemplateFile =
      (entries.filter fun x => holdsTemplate folder x.1).map fun x => x.1.name := by
  induction entries with
  | nil => rfl
  | cons x entries ih =>
      rw [List.filterMap_cons, List.filter_cons, holdsTemplate]
      by_cases inside : x.1 ≠ [] ∧ x.1.parent = folder
      · rw [if_pos inside, decide_eq_true inside, Bool.true_and, List.filter_cons, ih]
        split <;> rfl
      · rw [if_neg inside, decide_eq_false inside, ih]
        rfl

/-- To sort names and then choose among them is to choose first. -/
theorem filter_mergeSort (p : String → Bool) (names : List String) :
    (names.mergeSort fun a b => a ≤ b).filter p =
      (names.filter p).mergeSort fun a b => a ≤ b := by
  refine List.Perm.eq_of_pairwise ?_ ((pairwise_mergeSort names).filter p)
    (pairwise_mergeSort (names.filter p)) ?_
  · intro a b _ _ first second
    exact String.le_antisymm first second
  · exact ((List.mergeSort_perm names _).filter p).trans (List.mergeSort_perm _ _).symm

/-- The template files of a folder, told by the entries for them. -/
theorem filesIn_congr (found : d.resolve folder = .ok place)
    (found' : d'.resolve folder = .ok place)
    (order : d'.entries.filter (fun x => holdsTemplate place x.1) =
      d.entries.filter fun x => holdsTemplate place x.1) :
    filesIn d' folder = filesIn d folder := by
  rw [filesIn, filesIn, Disk.names, Disk.names, found, found']
  simp only [Disk.namesAt]
  rw [filter_mergeSort, filter_mergeSort, filter_names, filter_names, order]

/-- A text aside is no template file. -/
theorem isTemplateFile_asideName (name : String) (m : Numbering.Mark) :
    isTemplateFile (Numbering.asideName name m) = false := by
  have last : (Numbering.asideName name m).toList.getLast? = some 'p' := by
    rw [Numbering.asideName, String.toList_append, List.getLast?_append]
    rfl
  have no (ending : String) (other : ending.toList.getLast? ≠ some 'p')
      (some : ending.toList ≠ []) :
      ending.toList.isSuffixOf (Numbering.asideName name m).toList = false := by
    rw [Bool.eq_false_iff]
    intro suffix
    obtain ⟨front, same⟩ := List.isSuffixOf_iff_suffix.1 suffix
    rw [← same, List.getLast?_append_of_ne_nil _ some] at last
    exact other last
  rw [isTemplateFile, endings]
  simp only [List.any_cons, List.any_nil, no ".yml" (by decide) (by decide),
    no ".yaml" (by decide) (by decide), no ".json" (by decide) (by decide), Bool.or_false,
    Bool.false_and]

/-- A catalogue that has been loaded is loaded again as it is, from a disk on which the folder has
the same template files, with the same content. -/
theorem load_again (h : (empty folder).load reader d (some folder) = (c, .ok ()))
    (files : filesIn d' folder = filesIn d folder)
    (same : ∀ name content, isTemplateFile name = true → d.read (folder ++ [name]) = .ok content →
      d'.read (folder ++ [name]) = .ok content)
    (present : ∃ found, d'.find? folder = .ok found) :
    c.load reader d' (some folder) = (c, .ok ()) := by
  obtain ⟨found, present⟩ := present
  rw [load] at h ⊢
  simp only [empty, Option.getD_some, present] at h ⊢
  split at h
  · rw [fill] at h ⊢
    rw [files]
    simp only at h ⊢
    split at h
    · obtain ⟨rfl, -⟩ := Prod.mk.inj h
      rfl
    · rename_i names _
      split at h
      · rename_i c' added
        obtain ⟨rfl, -⟩ := Prod.mk.inj h
        have again : addFiles reader d' ⟨[], folder, false⟩ (filesIn d folder) =
            addFiles reader d ⟨[], folder, false⟩ (filesIn d folder) := by
          apply addFiles_congr
          intro name listed
          obtain ⟨t, readable, -⟩ := find?_of_addFiles (congrArg Prod.snd added) name listed
          obtain ⟨content, read⟩ := read_of_readFile readable
          apply readFile_congr
          rw [read, same name content (List.mem_filter.1 listed).2 read]
        rw [addFiles_loaded d' ⟨[], folder, false⟩ _ true, again, added]
      · exact absurd (Prod.mk.inj h).2 (by simp)
      · exact absurd (Prod.mk.inj h).2 (by simp)
  · exact absurd (Prod.mk.inj h).2 (by simp)

theorem find?_of_load (h : (empty folder).load reader d (some folder) = (c, .ok ())) :
    ∃ found, d.find? folder = .ok found := by
  rw [load] at h
  simp only [empty, Option.getD_some] at h
  split at h
  · rename_i found
    exact ⟨_, found⟩
  · exact absurd (Prod.mk.inj h).2 (by simp)

/-- A folder from which templates have been loaded is there. -/
theorem resolve_of_load (h : (empty folder).load reader d (some folder) = (c, .ok ()))
    (some : c.templates ≠ []) : ∃ place, d.resolve folder = .ok place := by
  obtain ⟨found, present⟩ := find?_of_load h
  cases resolved : d.resolve folder with
  | ok place => exact ⟨place, rfl⟩
  | error e =>
      have none : filesIn d folder = [] := by
        rw [filesIn, Disk.names, resolved]
        rfl
      rw [load] at h
      simp only [empty, Option.getD_some, present, fill, none] at h
      obtain ⟨rfl, -⟩ := Prod.mk.inj h
      exact absurd rfl some

end Catalogue

namespace Service

variable {reader : DataFile.Reader} {places : Places} {d d' : Disk} {s start : Service}
  {q : Register}

theorem restart_eq_ok_iff : s.restart reader places d = (start, .ok ()) ↔
    s.catalogue.load reader d (some places.templates) = (start.catalogue, .ok ()) ∧
      entitiesAt reader d places.entities = .ok start.entities ∧
      Numbering.ofFile d places.register = .ok start.numbering := by
  rw [restart]
  constructor
  · intro h
    split at h
    · exact absurd (Prod.mk.inj h).2 (by simp)
    · rename_i loaded
      split at h
      · exact absurd (Prod.mk.inj h).2 (by simp)
      · rename_i found
        split at h
        · exact absurd (Prod.mk.inj h).2 (by simp)
        · rename_i numbered
          obtain ⟨rfl, -⟩ := Prod.mk.inj h
          exact ⟨loaded, found, numbered⟩
  · rintro ⟨loaded, found, numbered⟩
    rw [loaded]
    simp only [found, numbered]

/-! ## What is read again -/

/-- The templates are loaded again as they were; if there are none, from the disk as it was. -/
theorem load_of_within (apart : places.Apart d) (within : Within places.register d d')
    (loaded : (Catalogue.empty places.templates).load reader d (some places.templates) =
      (start.catalogue, .ok ()))
    (idle : start.catalogue.templates = [] → d' = d) :
    start.catalogue.load reader d' (some places.templates) = (start.catalogue, .ok ()) := by
  by_cases none : start.catalogue.templates = []
  · obtain rfl := idle none
    exact Catalogue.load_again loaded rfl (fun _ _ _ read => read) (Catalogue.find?_of_load loaded)
  · obtain ⟨place, found⟩ := Catalogue.resolve_of_load loaded none
    obtain rfl := (Disk.resolve_eq_ok_iff_open.1 found).2.2
    have found' := Disk.resolve_mono within.keepsFolders found
    apply Catalogue.load_again loaded
    · apply Catalogue.filesIn_congr found found'
      apply within.order
      intro place touched
      rw [Catalogue.holdsTemplate, Bool.and_eq_false_iff, decide_eq_false_iff_not,
        or_iff_not_imp_left, not_not]
      rintro ⟨-, inside⟩
      rcases touched with passed | at_file | ⟨m, beside⟩
      · exact apart.templates place (.inl passed) inside
      · exact apart.templates place (.inr at_file) inside
      · rw [beside, Location.name, List.getLast?_concat, Option.getD_some]
        exact Catalogue.isTemplateFile_asideName _ m
    · intro name content template read
      refine within.read_eq_ok ?_ read
      intro at_file
      have forward : name ≠ ".." := by
        rintro rfl
        exact absurd template (by decide)
      rw [Location.lead_concat, Location.next, if_neg forward] at at_file
      have other := apart.templates _ (.inr at_file) (Location.parent_concat _ name)
      rw [Location.name, List.getLast?_concat, Option.getD_some, template] at other
      exact absurd other (by simp)
    · exact ⟨_, by rw [Disk.find?, found']⟩

/-- The entities are read again as they were. -/
theorem entitiesAt_of_within (apart : places.Apart d) (within : Within places.register d d')
    {es : Option Entities} (read : entitiesAt reader d places.entities = .ok es) :
    entitiesAt reader d' places.entities = .ok es := by
  have same : d'.get? (lead places.entities) = d.get? (lead places.entities) := by
    rcases within.places (lead places.entities) with (same | ⟨free, -, passed⟩) | ⟨at_file, -⟩
    · exact same
    · exact absurd free (apart.kept passed)
    · exact absurd at_file apart.entities
  cases found : d.resolve places.entities with
  | ok place =>
      obtain rfl := (Disk.resolve_eq_ok_iff_open.1 found).2.2
      have found' := Disk.resolve_mono within.keepsFolders found
      have reads : d'.read places.entities = d.read places.entities := by
        rw [Disk.read, Disk.read, found, found', ok_bind, ok_bind, same]
      rw [← read, entitiesAt, entitiesAt, Disk.find?, Disk.find?, found, found']
      simp only [same, Entities.ofFile, DataFile.read, reads]
  | error e =>
      obtain ⟨fit, noBack, free⟩ := apart.toEntities.resolve_left (by simp [found])
      rw [Location.lead_of_no_back noBack, free] at same
      have absent {d : Disk} (free : d.get? places.entities = none) :
          entitiesAt reader d places.entities = .ok none := by
        have nothing : d.find? places.entities = .ok none := by
          rw [Disk.find?]
          split
          · rename_i place found
            rw [Disk.resolve_of_no_back noBack found, free]
          · rename_i long
            exact absurd long (Disk.resolve_ne_nameTooLong fit)
          · rfl
        rw [entitiesAt, nothing]
      rw [absent free] at read
      rw [absent same, read]

/-- A service that starts again has the templates and the entities that it had, and the register
that is in its file. -/
theorem restart_again {now : Service} (apart : places.Apart d)
    (started : (blank places).restart reader places d = (start, .ok ()))
    (within : Within places.register d d') (idle : start.catalogue.templates = [] → d' = d)
    (catalogue : now.catalogue = start.catalogue)
    (loaded : Numbering.load d' places.register = .ok q) :
    now.restart reader places d' =
      (⟨start.catalogue, start.entities, ⟨q, some places.register⟩⟩, .ok ()) := by
  obtain ⟨templates, entities, -⟩ := restart_eq_ok_iff.1 started
  rw [restart_eq_ok_iff, catalogue]
  refine ⟨load_of_within apart within templates idle,
    entitiesAt_of_within apart within entities, ?_⟩
  rw [Numbering.ofFile, loaded]
  rfl

end Service

end MinuteBook
