import MinuteBook.Entities
import MinuteBook.Proofs.Catalogue.Defects
import MinuteBook.Yaml.Reader

/-!
# What can be wrong with the file of entities

Reading the file gives a list of entities or a defect of the file, with a message that names it.
Most defects are looked out for, but not all: the top of the file is taken for a mapping and the
version for a finite number, and the reader of the text is trusted to fail in known ways. So there
are three outcomes, and each is told by what stands in the file, whatever the reader
(`Entities.ofFile_outcome`).
-/

namespace MinuteBook

/-! ## An entity -/

namespace Entity

/-- What an entity can be read from: a mapping with a legal name and an id that has a text. -/
def IsGiven (v : Value) : Prop :=
  ∃ es id text name, v = .mapping es ∧ Record.get? es "id" = some id ∧ id.display = .ok text ∧
    Record.get? es "legalName" = some name

/-- Reading an entity out of a mapping: what can fail is to find the id and its text, and to find
the legal name. -/
theorem ofValue_mapping (es : Record) : ofValue (.mapping es) = (do
    let id ← (Value.mapping es).require "id"
    let text ← id.display
    let legalName ← (Value.mapping es).require "legalName"
    return {
      id := text
      legalName
      shortName := (Record.get? es "shortName").getD .null
      jurisdiction := (Record.get? es "jurisdiction").getD .null
      ein := (Record.get? es "ein").getD .null
      effectiveDate := (Record.get? es "effectiveDate").getD .null
      status := (Record.get? es "status").getD .null
      address := (Record.get? es "address").getD .null
      email := (Record.get? es "email").getD .null }) := rfl

theorem exists_ofValue_iff (v : Value) : (∃ e, ofValue v = .ok e) ↔ IsGiven v := by
  constructor
  · rintro ⟨e, read⟩
    cases v with
    | mapping es =>
        rw [ofValue_mapping] at read
        obtain ⟨id, given, read⟩ := bind_eq_ok.1 read
        obtain ⟨text, shown, read⟩ := bind_eq_ok.1 read
        obtain ⟨name, named, -⟩ := bind_eq_ok.1 read
        exact ⟨es, id, text, name, rfl, Value.require_eq_ok_iff.1 given, shown,
          Value.require_eq_ok_iff.1 named⟩
    | _ => exact absurd read (by simp [ofValue, Value.require])
  · rintro ⟨es, id, text, name, rfl, given, shown, named⟩
    rw [ofValue_mapping, Value.require_eq_ok_iff.2 given, ok_bind, shown, ok_bind,
      Value.require_eq_ok_iff.2 named, ok_bind]
    exact ⟨_, rfl⟩

theorem not_strays_ofValue (v : Value) : ¬ FailsWith Fault.IsStray (ofValue v) := by
  cases v with
  | mapping es =>
      simp only [ofValue_mapping, failsWith_bind, Value.not_strays_require, not_failsWith_pure,
        (Value.longOnly_display _).not_strays, and_false, exists_false, or_false,
        not_false_eq_true]
  | _ => simp +decide [ofValue, Value.require]

end Entity

namespace Entities

variable {es : Record} {v : Value} {reader : DataFile.Reader} {d : Disk} {place : Location}

/-! ## A list of entities -/

/-- The items of a list of entities, which can all be read. -/
structure Lists (es : Record) (items : List Value) : Prop where
  listed : ((Record.get? es "entities").getD (.list [])).iterate = .ok items
  given : ∀ item ∈ items, Entity.IsGiven item

/-- A list of entities that can be read. -/
structure WellFormed (es : Record) : Prop where
  entities : ∃ items, Lists es items
  version : ∃ n, ((Record.get? es "version").getD (.int 1)).toInt = .ok n
  updatedAt : ∃ text, ((Record.get? es "updatedAt").getD (.text "")).display = .ok text

/-- A list of entities that comes upon a fault which is not looked out for. -/
inductive Misshapen : Value → Prop where
  /-- It is no mapping. -/
  | whole {v : Value} (other : v.isMapping = false) : Misshapen v
  /-- Its entities can be read, and its version is infinite. -/
  | version {es : Record} {items : List Value} {neg : Bool} (lists : Lists es items)
      (infinite : Record.get? es "version" = some (.double (.infinite neg))) :
      Misshapen (.mapping es)

theorem ofValue_mapping (es : Record) : ofValue (.mapping es) = (do
    let items ← ((Record.get? es "entities").getD (.list [])).iterate
    let members ← items.mapM Entity.ofValue
    let version ← ((Record.get? es "version").getD (.int 1)).toInt
    let updatedAt ← ((Record.get? es "updatedAt").getD (.text "")).display
    return ⟨version, updatedAt, Keyed.ofPairs (members.map fun e => (e.id, e))⟩) := rfl

theorem exists_members_iff (items : List Value) :
    (∃ members, items.mapM Entity.ofValue = .ok members) ↔ ∀ item ∈ items, Entity.IsGiven item := by
  simp only [exists_mapM_eq_ok_iff, Entity.exists_ofValue_iff]

theorem exists_ofValue_mapping_iff (es : Record) :
    (∃ list, ofValue (.mapping es) = .ok list) ↔ WellFormed es := by
  constructor
  · rintro ⟨list, read⟩
    rw [ofValue_mapping] at read
    obtain ⟨items, listed, read⟩ := bind_eq_ok.1 read
    obtain ⟨members, given, read⟩ := bind_eq_ok.1 read
    obtain ⟨version, versioned, read⟩ := bind_eq_ok.1 read
    obtain ⟨updatedAt, updated, -⟩ := bind_eq_ok.1 read
    exact ⟨⟨items, listed, (exists_members_iff items).1 ⟨members, given⟩⟩, ⟨version, versioned⟩,
      ⟨updatedAt, updated⟩⟩
  · rintro ⟨⟨items, listed, given⟩, ⟨version, versioned⟩, ⟨updatedAt, updated⟩⟩
    obtain ⟨members, read⟩ := (exists_members_iff items).2 given
    rw [ofValue_mapping, listed, ok_bind, read, ok_bind, versioned, ok_bind, updated, ok_bind]
    exact ⟨_, rfl⟩

theorem strays_ofValue_mapping_iff (es : Record) :
    FailsWith Fault.IsStray (ofValue (.mapping es)) ↔
      ∃ items neg, Lists es items ∧
        Record.get? es "version" = some (.double (.infinite neg)) := by
  have members (items : List Value) : ¬ FailsWith Fault.IsStray (items.mapM Entity.ofValue) := by
    intro strays
    obtain ⟨before, item, after, -, -, strays⟩ := failsWith_mapM.1 strays
    exact Entity.not_strays_ofValue item strays
  have version : FailsWith Fault.IsStray ((Record.get? es "version").getD (.int 1)).toInt ↔
      ∃ neg, Record.get? es "version" = some (.double (.infinite neg)) := by
    rw [Value.strays_toInt_iff]
    cases Record.get? es "version" <;> simp
  simp only [ofValue_mapping, failsWith_bind, Value.not_strays_iterate, members, version,
    (Value.longOnly_display _).not_strays, not_failsWith_pure, false_or, and_false, exists_false,
    or_false]
  constructor
  · rintro ⟨items, listed, read, given, neg, infinite⟩
    exact ⟨items, neg, ⟨listed, (exists_members_iff items).1 ⟨read, given⟩⟩, infinite⟩
  · rintro ⟨items, neg, ⟨listed, given⟩, infinite⟩
    obtain ⟨members, read⟩ := (exists_members_iff items).2 given
    exact ⟨items, listed, members, read, neg, infinite⟩

/-- Reading a list of entities goes astray exactly if the list is misshapen. -/
theorem strays_ofValue_iff (v : Value) : FailsWith Fault.IsStray (ofValue v) ↔ Misshapen v := by
  cases v with
  | mapping es =>
      rw [strays_ofValue_mapping_iff]
      constructor
      · rintro ⟨items, neg, lists, infinite⟩
        exact .version lists infinite
      · rintro (other | ⟨lists, infinite⟩)
        · exact absurd other (by simp [Value.isMapping])
        · exact ⟨_, _, lists, infinite⟩
  | _ => exact iff_of_true (failsWith_bind.2 (.inl ((Value.strays_getD_iff ..).2 rfl))) (.whole rfl)

/-! ## The file -/

/-- Defects that are not looked out for. -/
def Error.IsStray (e : Error) : Prop := e.isUnforeseen = true

instance : DecidablePred Error.IsStray := fun e =>
  inferInstanceAs (Decidable (e.isUnforeseen = true))

/-- Of the faults in a list of entities they are the same as in a template. -/
theorem Error.isStray_fault_iff (f : Fault) : IsStray (.fault f) ↔ f.IsStray := by
  cases f with
  | absentKey key => exact iff_of_false Bool.false_ne_true Bool.false_ne_true
  | _ => decide

/-- A file that holds a list of entities, or no data. -/
def IsList (reader : DataFile.Reader) (d : Disk) (place : Location) : Prop :=
  ∃ v, DataFile.read reader d place = .ok v ∧
    (v.isPresent = false ∨ ∃ es, v = .mapping es ∧ WellFormed es)

/-- A file with a text or with data that are not looked out for: the reader fails on it in a way of
its own, or finds a misshapen list. -/
def Upsets (reader : DataFile.Reader) (d : Disk) (place : Location) : Prop :=
  (∃ e, DataFile.read reader d place = .error (.refused (.failed e)) ∧ e.family = .other) ∨
    ∃ v, DataFile.read reader d place = .ok v ∧ v.isPresent = true ∧ Misshapen v

theorem isList_iff : IsList reader d place ↔ ∃ list, ofFile reader d place = .ok list := by
  rw [IsList, ofFile]
  cases DataFile.read reader d place with
  | error e => simp
  | ok v =>
      simp only [Except.ok.injEq, exists_eq_left', mapError_eq_ok]
      cases present : v.isPresent with
      | false =>
          rw [Value.orElse, if_neg (by simp [present])]
          exact iff_of_true (.inl rfl) ⟨.empty, rfl⟩
      | true =>
          rw [Value.orElse, if_pos present]
          cases v with
          | mapping es => simp [exists_ofValue_mapping_iff]
          | _ => simp [ofValue, Value.getD]

theorem upsets_iff :
    Upsets reader d place ↔ FailsWith Error.IsStray (ofFile reader d place) := by
  rw [Upsets, ofFile]
  cases DataFile.read reader d place with
  | error e =>
      simp only [Except.error.injEq, reduceCtorEq, false_and, exists_false, or_false,
        failsWith_error_iff]
      cases e with
      | refused e => cases e <;> simp [Error.IsStray, Error.isUnforeseen]
      | notText => simp [Error.IsStray, Error.isUnforeseen]
      | disk e => simp [Error.IsStray, Error.isUnforeseen]
  | ok v =>
      simp only [reduceCtorEq, false_and, exists_false, false_or, Except.ok.injEq, exists_eq_left',
        failsWith_mapError, Error.isStray_fault_iff]
      cases present : v.isPresent with
      | false =>
          rw [Value.orElse, if_neg (by simp [present])]
          exact iff_of_false (by simp) (not_failsWith_ok Entities.empty)
      | true =>
          rw [Value.orElse, if_pos present]
          exact (and_iff_right rfl).trans (strays_ofValue_iff v).symm

/-- Whatever the reader, a file gives entities exactly if it holds a list of them or no data, and
ends with an error that is not looked out for exactly in the given cases. Any other file, and a file
that is missing or cannot be read, is an error that is looked out for. -/
theorem ofFile_outcome (reader : DataFile.Reader) (d : Disk) (place : Location) :
    (IsList reader d place ↔ ∃ list, ofFile reader d place = .ok list) ∧
    (Upsets reader d place ↔ FailsWith Error.IsStray (ofFile reader d place)) ∧
    (IsList reader d place ∨ Upsets reader d place ∨
      ∃ e, ofFile reader d place = .error e ∧ e.isUnforeseen = false) ∧
    ∀ e, d.read place = .error e →
      ofFile reader d place = .error (.file (.disk e)) ∧ ¬ Upsets reader d place := by
  refine ⟨isList_iff, upsets_iff, ?_, fun e unread => ?_⟩
  · rw [isList_iff, upsets_iff]
    cases outcome : ofFile reader d place with
    | ok list => exact .inl ⟨list, rfl⟩
    | error e =>
        by_cases stray : e.IsStray
        · exact .inr (.inl (failsWith_error_iff.2 stray))
        · exact .inr (.inr ⟨e, rfl, Bool.eq_false_iff.2 stray⟩)
  · have read : DataFile.read reader d place = .error (.disk e) := by
      rw [DataFile.read, unread]
    constructor
    · rw [ofFile, read]
    · simp [Upsets, read]

/-- A disk with one file. -/
def oneFile (text : String) : Disk := ⟨[(["e.yml"], .file text.toUTF8)]⟩

/-- Of files in YAML, one with an entity is a list. One with a list at its top, or with an infinite
version, is not looked out for. One whose entities are a number is an error like a missing file. -/
theorem outcome_of_oneFile :
    (∃ list, ofFile Yaml.reader (oneFile "entities: [\x7bid: A, legalName: Inc\x7d]") ["e.yml"] =
        .ok list) ∧
      FailsWith Error.IsStray (ofFile Yaml.reader (oneFile "[1]") ["e.yml"]) ∧
      FailsWith Error.IsStray (ofFile Yaml.reader (oneFile "version: .inf") ["e.yml"]) ∧
      (∃ e, ofFile Yaml.reader (oneFile "entities: 5") ["e.yml"] = .error e ∧
        e.isUnforeseen = false) ∧
      ofFile Yaml.reader .empty ["e.yml"] = .error (.file (.disk .missing)) := by
  have data (text : String) (v : Value) (lines : '\r' ∉ text.toList)
      (read : Yaml.reader text = .ok v) :
      DataFile.read Yaml.reader (oneFile text) ["e.yml"] = .ok v :=
    DataFile.read_of_text rfl lines read
  refine ⟨?_, ?_, ?_, ?_, ?_⟩
  · let entity : Record := [("id", .text "A"), ("legalName", .text "Inc")]
    have read := data "entities: [\x7bid: A, legalName: Inc\x7d]"
      (.mapping [("entities", .list [.mapping entity])]) (by decide) (by decide +kernel)
    have given : Entity.IsGiven (.mapping entity) :=
      ⟨entity, .text "A", "A", .text "Inc", rfl, by decide +kernel, rfl, by decide +kernel⟩
    refine (ofFile_outcome _ _ _).1.1 ⟨_, read, .inr ⟨_, rfl, ⟨_, rfl, ?_⟩, ⟨1, rfl⟩, ⟨"", rfl⟩⟩⟩
    exact List.forall_mem_singleton.2 given
  · have read := data "[1]" (.list [.int 1]) (by decide) (by decide +kernel)
    exact (ofFile_outcome _ _ _).2.1.1 (.inr ⟨_, read, rfl, .whole rfl⟩)
  · have read := data "version: .inf" (.mapping [("version", .double (.infinite false))])
      (by decide) (by decide +kernel)
    exact (ofFile_outcome _ _ _).2.1.1
      (.inr ⟨_, read, rfl, .version ⟨rfl, List.forall_mem_nil _⟩ rfl⟩)
  · have read := data "entities: 5" (.mapping [("entities", .int 5)]) (by decide)
      (by decide +kernel)
    have unlisted (items : List Value) : ¬ Lists [("entities", .int 5)] items := by
      intro lists
      have failed : Except.error Fault.notIterable = Except.ok items := lists.listed
      exact absurd failed (by simp)
    rcases (ofFile_outcome Yaml.reader (oneFile "entities: 5") ["e.yml"]).2.2.1 with
      list | upsets | other
    · obtain ⟨v, read', list⟩ := list
      obtain rfl := Except.ok.inj (read.symm.trans read')
      rcases list with absent | ⟨es, same, wellFormed⟩
      · exact absurd absent (by decide)
      · obtain rfl := Value.mapping.inj same
        obtain ⟨items, lists⟩ := wellFormed.entities
        exact absurd lists (unlisted items)
    · rcases upsets with ⟨e, failed, -⟩ | ⟨v, read', -, misshapen⟩
      · exact absurd (read.symm.trans failed) (by simp)
      · obtain rfl := Except.ok.inj (read.symm.trans read')
        rcases misshapen with other | ⟨lists, -⟩
        · exact absurd other (by decide)
        · exact absurd lists (unlisted _)
    · exact other
  · exact ((ofFile_outcome Yaml.reader .empty ["e.yml"]).2.2.2 .missing rfl).1

end Entities

end MinuteBook
