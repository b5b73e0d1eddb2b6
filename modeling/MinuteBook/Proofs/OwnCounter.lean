import MinuteBook.Proofs.Exchanges
import MinuteBook.Proofs.Memo
import MinuteBook.Proofs.Value.Short
import MinuteBook.Web.Front
import MinuteBook.Yaml.Reader

/-!
# An answer depends on its own counter

A document with a number of a series is answered as it would be if, before it, other requests and
starts had not been: listings, defaults, failed requests, documents of other series
(`answers_by_own_counter`). Two services on their way, one through all events and one through those
that are left, have the same counter of the series in memory and in the file, and that is all that
such an answer depends on (`Settled.alike`).
-/

namespace MinuteBook

open Disk (Permitted)
open MinuteBook.Numbering (Within Writable)

namespace Service

variable {ρ α : Type} {start : Service} {base : Disk} {site : Site ρ α} {k : Series} {room : Nat}
  {now other : Service × Disk} {e : Event ρ} {events : List (Event ρ)} {kept : List (Exchange ρ α)}

theorem event_step (site : Site ρ α) (now : Service × Disk) (e : Event ρ) :
    (site.step now e).2.event = e := by
  cases e <;> rfl

/-- Two settled services with the same counter of a series make the same exchange, if it is for a
number of that series; and it is of the same series in any case. Only the cause why a number could
not be saved may differ. -/
theorem Settled.alike (h : Settled site base start k (room + 1) now)
    (h' : Settled site base start k (room + 1) other) (permitted : Permitted site.places.register)
    (same : other.1.numbering.register.last k = now.1.numbering.register.last k)
    (separate : ∀ s, (site.step now e).2.series = some s → Register.Separate k s)
    (unlost : (site.step now e).2.loses k = false) :
    (site.step other e).2.series = (site.step now e).2.series ∧
      (site.step other e).2.loses k = false ∧
      (site.step other e).2.issues k = (site.step now e).2.issues k ∧
      ((site.step now e).2.issues k = true → (site.step other e).2 = (site.step now e).2) := by
  cases e with
  | restart => exact ⟨rfl, unlost, rfl, fun _ => rfl⟩
  | request sys r =>
      have catalogue := h'.catalogue.trans h.catalogue.symm
      have entities := h'.entities.trans h.entities.symm
      have wants : other.1.wanted? site.front r = now.1.wanted? site.front r := by
        unfold wanted?
        rw [catalogue]
      have series : other.1.series? site.front site.today r =
          now.1.series? site.front site.today r := by
        rw [series?, series?, wants, entities]
      have series' : (site.step other (.request sys r)).2.series =
          (site.step now (.request sys r)).2.series := series
      refine ⟨series', ?_⟩
      by_cases taken : (site.step now (.request sys r)).2.series = some k
      · have taken' : now.1.series? site.front site.today r = some k := taken
        obtain ⟨x, wanted, own⟩ := Option.bind_eq_some_iff.1 taken'
        let c := now.1.callFor (site.around sys) x
        have call : other.1.callFor (site.around sys) x = c := by
          rw [callFor, entities]
          rfl
        have alike : Desk.Alike (Desk.answer ⟨now.1.numbering, now.2⟩ c).2
            (Desk.answer ⟨other.1.numbering, other.2⟩ c).2 :=
          Desk.answer_alike h.keeps h'.keeps permitted same
            (h'.within.writable_iff.trans h.within.writable_iff.symm) own (separate k taken)
        rw [step_request wanted] at unlost ⊢
        rw [step_request (wants.trans wanted), call]
        simp only at unlost ⊢
        rcases alike with equal | ⟨t, number, e, e', failed, failed'⟩
        · rw [← equal]
          exact ⟨unlost, rfl, fun _ => rfl⟩
        · -- The causes may differ, but no document was made for either.
          rw [failed, failed']
          obtain ⟨-, idle⟩ :=
            idle_of_unsaved (.request sys r) c.series? site.front r site.words t number e
          obtain ⟨kept', idle'⟩ :=
            idle_of_unsaved (.request sys r) c.series? site.front r site.words t number e'
          refine ⟨kept', idle'.trans idle.symm, fun issued => ?_⟩
          exact absurd (idle.symm.trans issued) (by simp)
      · have taken' := series'.trans_ne taken
        simp [Exchange.loses, Exchange.issues, taken, taken']

/-- Of what is left of a list, and holds all elements of a kind, the first is the first of the list,
or that was not of the kind. -/
theorem sublist_cons_of_filter {p : Exchange ρ α → Bool} {x : Exchange ρ α}
    {full : List (Exchange ρ α)}
    (sub : kept.Sublist (x :: full)) (whole : kept.filter p = (x :: full).filter p) :
    (p x = false ∧ kept.Sublist full ∧ kept.filter p = full.filter p) ∨
      ∃ rest, kept = x :: rest ∧ rest.Sublist full ∧ rest.filter p = full.filter p := by
  rcases List.sublist_cons_iff.1 sub with fewer | ⟨rest, rfl, fewer⟩
  · apply Or.inl
    rw [List.filter_cons] at whole
    split at whole
    · have short := (fewer.filter p).length_le
      rw [whole, List.length_cons] at short
      omega
    · rename_i no
      exact ⟨Bool.eq_false_iff.2 no, fewer, whole⟩
  · refine .inr ⟨rest, rfl, fewer, ?_⟩
    rw [List.filter_cons, List.filter_cons] at whole
    split at whole
    · exact (List.cons.inj whole).2
    · exact whole

/-- What is left of a history is answered as it was, where it made a document with a number of the
series. -/
theorem Settled.history (started : site.Starts base start) (apart : site.places.Apart base)
    (permitted : Permitted site.places.register)
    (h : Settled site base start k events.length now)
    (h' : Settled site base start k events.length other)
    (same : other.1.numbering.register.last k = now.1.numbering.register.last k)
    (separate : ∀ x ∈ site.history now events, ∀ s, x.series = some s → Register.Separate k s)
    (unlost : ∀ x ∈ site.history now events, x.loses k = false)
    (sub : kept.Sublist (site.history now events))
    (whole : kept.filter (·.issues k) = (site.history now events).filter (·.issues k)) :
    List.Forall₂ (fun x y => y.event = x.event ∧ (x.issues k = true → y = x)) kept
      (site.history other (kept.map Exchange.event)) := by
  induction events generalizing now other kept with
  | nil =>
      obtain rfl := List.sublist_nil.1 sub
      exact .nil
  | cons e events ih =>
      rw [Site.history] at separate unlost sub whole
      rw [List.forall_mem_cons] at separate unlost
      obtain ⟨next, moved⟩ := h.step started apart separate.1 unlost.1
      rcases sublist_cons_of_filter sub whole with ⟨idle, fewer, rest⟩ | ⟨rest, rfl, fewer, left⟩
      · -- The event is left out; it made no document with a number of the series.
        apply ih next (h'.mono (Nat.le_succ _)) _ separate.2 unlost.2 fewer rest
        rw [same, moved, idle]
        simp
      · obtain ⟨series, unlost', issues, answer⟩ :=
          h.alike h' permitted same separate.1 unlost.1
        obtain ⟨next', moved'⟩ := h'.step started apart (series ▸ separate.1) unlost'
        rw [List.map_cons, event_step, Site.history]
        refine .cons ⟨by rw [event_step, event_step], answer⟩ ?_
        apply ih next next' _ separate.2 unlost.2 fewer left
        rw [moved', moved, same, issues]

/-! ## From the start -/

theorem settled_start (started : site.Starts base start)
    (apart : site.places.Apart base)
    (space : ∀ s, start.numbering.register.last s + room < Text.wholeLimit)
    (separate : ∀ s, start.numbering.register.last s ≠ 0 → Register.Separate k s) :
    Settled site base start k room (start, base) := by
  obtain ⟨-, -, numbered⟩ := restart_eq_ok_iff.1 started
  obtain ⟨r, loaded, same⟩ := bind_eq_ok.1 numbered
  have same : start.numbering = ⟨r, some site.places.register⟩ := (Except.ok.inj same).symm
  rw [same] at space separate
  have steady : r.Steady k room := by
    refine ⟨Numbering.sound_of_load loaded, ?_, space, separate⟩
    intro s listed
    obtain ⟨c, held, rfl⟩ := List.mem_map.1 listed
    exact (Numbering.short_of_load loaded c held).1
  refine ⟨rfl, rfl, .refl _ _, fun _ => rfl, ?_⟩
  rw [same]
  exact ⟨rfl, steady, apart.toRegister, r, loaded, steady, rfl⟩

/-- A number that is given to a document has been saved, so the path of the register is
permitted. -/
theorem Settled.permitted (h : Settled site base start k room now)
    (unlost : (site.step now e).2.loses k = false) (issued : (site.step now e).2.issues k = true) :
    Permitted site.places.register := by
  cases e with
  | restart => exact absurd issued (by simp [Site.step, Exchange.issues])
  | request sys r =>
      cases wanted : now.1.wanted? site.front r with
      | none =>
          have none := (step_of_not_wanted site sys wanted).2
          simp [Exchange.issues, none] at issued
      | some x =>
          rw [step_request wanted] at unlost issued
          simp only at unlost issued
          generalize step : Desk.answer ⟨now.1.numbering, now.2⟩ _ = after at *
          obtain ⟨desk, result⟩ := after
          rw [(issues_eq step unlost).2, Answered.issues, Bool.and_eq_true, decide_eq_true_eq]
            at issued
          obtain ⟨taken, numbered⟩ := issued
          have spec := Desk.answer_spec step
          simp only [taken] at spec
          cases spec with
          | withdrawn => exact absurd numbered (by simp [Answered.number?])
          | unsaved => exact absurd numbered (by simp [Answered.number?])
          | unprinted => exact absurd numbered (by simp [Answered.number?])
          | issued saved =>
              rw [Numbering.SavedTo, Desk.advanced, h.keeps.place] at saved
              obtain ⟨text, -, held⟩ := saved
              obtain ⟨place, found, -⟩ := Disk.read_eq_ok_iff.1 held
              exact (Disk.resolve_eq_ok_iff_open.1 found).1.permitted

theorem Settled.permitted_of_mem
    (started : site.Starts base start)
    (apart : site.places.Apart base) (h : Settled site base start k events.length now)
    (separate : ∀ x ∈ site.history now events, ∀ s, x.series = some s → Register.Separate k s)
    (unlost : ∀ x ∈ site.history now events, x.loses k = false) :
    ∀ x ∈ site.history now events, x.issues k = true → Permitted site.places.register := by
  induction events generalizing now with
  | nil => simp [Site.history]
  | cons e events ih =>
      rw [Site.history] at separate unlost ⊢
      rw [List.forall_mem_cons] at separate unlost ⊢
      refine ⟨h.permitted unlost.1, ?_⟩
      exact ih (h.step started apart separate.1 unlost.1).1 separate.2 unlost.2

/-- Events without a document of the series say nothing of what is answered. -/
theorem forall₂_of_idle (idle : ∀ x ∈ kept, x.issues k = false) :
    List.Forall₂ (fun x y => y.event = x.event ∧ (x.issues k = true → y = x)) kept
      (site.history now (kept.map Exchange.event)) := by
  induction kept generalizing now with
  | nil => exact .nil
  | cons x kept ih =>
      rw [List.forall_mem_cons] at idle
      rw [List.map_cons, Site.history]
      exact .cons ⟨event_step _ _ _, fun issued => by simp [idle.1] at issued⟩ (ih idle.2)

end Service

/-! ## Memos by request -/

namespace Memo

/-- The definition of a memo, as a folder of templates holds it. -/
def definition : String :=
  "\x7b\"id\":\"m\",\"name\":\"M\",\"typeTag\":\"M\",\"fields\":[\x7b\"id\":\"resolutionId\"," ++
    "\"compute\":\x7b\"fn\":\"generateResolutionId\",\"args\":\x7b\"entityIdPath\":\"e\"\x7d\x7d" ++
    "\x7d],\"document\":\x7b\x7d\x7d"

/-- The memo of that definition. -/
def published : Template :=
  { template "" with
    id := "m"
    name := "M"
    fileNamePattern := Template.defaultPattern
    fields := [{ numberField with type := "text", hidden := false }] }

/-- A folder with a definition in it. -/
def disk (text : String) : Disk :=
  ⟨[(["d"], .folder), (["d", "m.json"], .file text.toUTF8)]⟩

/-- A service on the web with a folder of templates, which reads YAML. -/
def site : Service.Site Web.Request Web.Body where
  places := ⟨["d"], ["e"], file⟩
  reader := Yaml.reader
  front := Web.front
  today := newYear
  words := ⟨fun _ => "", fun _ => "", ""⟩

/-- The service that starts there. -/
def serving : Service := ⟨⟨[(.text "m", published)], ["d"], true⟩, none, ⟨.empty, some file⟩⟩

/-- A request for a memo about `A`. -/
def request (sys : Numbering.System) : Service.Event Web.Request :=
  .request sys ⟨.post, "/documents/templates/m/generate",
    some ("application/json", "\x7b\"e\":\"A\"\x7d".toUTF8.toList)⟩

theorem read_definition : (Yaml.reader definition).toOption.map
    (fun v => (v.isPresent, Template.parse v)) = some (true, .ok published) := by
  decide +kernel

variable {reader : DataFile.Reader} {text : String}

/-- A file with a text that defines the memo. -/
theorem readFile_of_content {d : Disk} {path : Location} (content : d.read path = .ok text.toUTF8)
    (lines : '\r' ∉ text.toList) (parsed : (reader text).toOption.map
      (fun v => (v.isPresent, Template.parse v)) = some (true, .ok published)) :
    Catalogue.readFile reader d path = .ok published := by
  rw [Catalogue.readFile, DataFile.read, content]
  simp only [Numbering.decode_toUTF8 lines]
  cases read : reader text with
  | error e => simp [read, Except.toOption] at parsed
  | ok v =>
      simp only [read, Except.toOption, Option.map_some, Option.some.injEq, Prod.mk.injEq] at parsed
      simp only [Except.mapError, parsed.1, if_true, parsed.2]

theorem readFile_eq (lines : '\r' ∉ text.toList) (parsed : (reader text).toOption.map
    (fun v => (v.isPresent, Template.parse v)) = some (true, .ok published)) :
    Catalogue.readFile reader (disk text) ["d", "m.json"] = .ok published :=
  readFile_of_content rfl lines parsed

theorem filesIn_disk (text : String) : Catalogue.filesIn (disk text) ["d"] = ["m.json"] := by
  have names : (disk text).names ["d"] = ["m.json"] := List.mergeSort_singleton _
  have template : Catalogue.isTemplateFile "m.json" = true := by decide
  rw [Catalogue.filesIn, names, List.filter_cons_of_pos template, List.filter_nil]

theorem load_eq (read : Catalogue.readFile reader (disk text) ["d", "m.json"] = .ok published) :
    Catalogue.load reader (disk text) (some ["d"]) (.empty ["d"]) =
      (serving.catalogue, .ok ()) := by
  have add : Catalogue.addFile reader (disk text) ⟨[], ["d"], false⟩ "m.json" =
      (⟨[(.text "m", published)], ["d"], false⟩, none) := by
    rw [Catalogue.addFile]
    simp only [List.singleton_append, read]
    rfl
  have present : (disk text).find? ["d"] = .ok (some .folder) := rfl
  rw [Catalogue.load]
  simp only [Catalogue.empty, Option.getD_some, present, Catalogue.fill, filesIn_disk,
    Catalogue.addFiles, add]
  rfl

theorem no_return_definition : '\r' ∉ definition.toList := by
  unfold definition
  rw [String.toList_append, String.toList_append]
  simp

theorem load_definition :
    Catalogue.load Yaml.reader (disk definition) (some ["d"]) (.empty ["d"]) =
      (serving.catalogue, .ok ()) :=
  load_eq (readFile_eq no_return_definition read_definition)

theorem started : site.Starts (disk definition) serving :=
  Service.restart_eq_ok_iff.2 ⟨load_definition, rfl, rfl⟩

theorem apart (text : String) : site.places.Apart (disk text) where
  templates := by
    rintro place (passed | rfl) inside
    · obtain rfl := Location.passes_nil.1 passed
      exact absurd inside (by decide)
    · exact absurd inside (by decide)
  entities := by decide
  kept passed := absurd (Location.passes_nil.1 passed) (by decide)
  toEntities := .inl ⟨["e"], rfl⟩
  toRegister := .inl ⟨["r"], rfl⟩

/-- An operating system that does not let a file take the place of another. -/
def unwilling : Numbering.System := { Numbering.System.willing with refuses := (· == .replace) }

/-- A memo about `A`, a new start, a memo that cannot be saved, and another one about `A`. -/
def visits : List (Service.Event Web.Request) :=
  [request .willing, .restart, request unwilling, request .willing]

/-- What an exchange means for the memos about `A`. -/
def outline (x : Service.Exchange Web.Request Web.Body) : Option Series × Bool × Bool :=
  (x.series, x.issues ⟨"A", 2025⟩, x.loses ⟨"A", 2025⟩)

/-- The disk after the first memo. -/
def written : Disk := (site.step (serving, disk definition) (request .willing)).1.2

theorem load_written : Numbering.load written file = .ok ⟨[(⟨"A", 2025⟩, 1)]⟩ := by decide +kernel

theorem outline_first : outline (site.step (serving, disk definition)
    (request .willing)).2 = (some ⟨"A", 2025⟩, true, false) := by
  decide +kernel

theorem outline_later :
    (site.history ({ serving with numbering := ⟨⟨[(⟨"A", 2025⟩, 1)]⟩, some file⟩ }, written)
      [request unwilling, request .willing]).map outline =
      [(some ⟨"A", 2025⟩, false, false), (some ⟨"A", 2025⟩, true, false)] := by
  decide +kernel

theorem separate_of_entity {s : Series} (h : s.entity = "A") : Register.Separate ⟨"A", 2025⟩ s := by
  intro n _
  rw [h]
  decide

theorem serving_space {n : Nat} (small : n < 10000) (s : Series) :
    serving.numbering.register.last s + n < Text.wholeLimit := by
  have none : serving.numbering.register.last s = 0 := rfl
  have := Text.lt_wholeLimit (k := 4) small (by decide)
  omega

theorem outline_visits : (site.history (serving, disk definition) visits).map outline =
    [(some ⟨"A", 2025⟩, true, false), (none, false, false), (some ⟨"A", 2025⟩, false, false),
      (some ⟨"A", 2025⟩, true, false)] := by
  have first := outline_first
  simp only [outline, Prod.mk.injEq] at first
  have settled : Service.Settled site (disk definition) serving ⟨"A", 2025⟩ 1
      (serving, disk definition) :=
    Service.settled_start started (apart definition) (serving_space (by decide))
      fun s used => absurd rfl used
  have separate (s : Series) (taken : (site.step (serving, disk definition)
      (request .willing)).2.series = some s) : Register.Separate ⟨"A", 2025⟩ s := by
    rw [first.1] at taken
    exact separate_of_entity (congrArg Series.entity (Option.some.inj taken).symm)
  have after := (settled.step started (apart definition) separate first.2.2).1
  have again := Service.restart_again (apart definition) started after.within after.idle
    after.catalogue load_written
  rw [visits, Service.Site.history, Service.Site.history, List.map_cons, List.map_cons,
    outline_first, Service.Site.step, again]
  exact congrArg _ (congrArg _ outline_later)

end Memo

/-! ## The theorem -/

namespace Service

variable {ρ α : Type} {start : Service} {base : Disk} {site : Site ρ α} {k : Series}
  {events : List (Event ρ)} {kept : List (Exchange ρ α)}

/-- An answer depends only on the history of its own counter. Of requests and restarts in a row, any
may be left out that made no document with a number of a series: whatever is left and did make one
is answered as it was. This takes a register file apart from the other files of the service, numbers
that stay short enough to be written, and that no number of the series was lost and no other series
is ever read from the file as this one. -/
theorem answers_by_own_counter
    (started : site.Starts base start)
    (apart : site.places.Apart base)
    (space : ∀ s, start.numbering.register.last s + events.length < Text.wholeLimit)
    (separate : ∀ s, (start.numbering.register.last s ≠ 0 ∨
      ∃ x ∈ site.history (start, base) events, x.series = some s) → Register.Separate k s)
    (unlost : ∀ x ∈ site.history (start, base) events, x.loses k = false)
    (sub : kept.Sublist (site.history (start, base) events))
    (whole : kept.filter (·.issues k) =
      (site.history (start, base) events).filter (·.issues k)) :
    List.Forall₂ (fun x y => y.event = x.event ∧ (x.issues k = true → y = x)) kept
      (site.history (start, base) (kept.map Exchange.event)) := by
  have settled : Settled site base start k events.length (start, base) :=
    settled_start started apart space fun s used => separate s (.inl used)
  have separate' : ∀ x ∈ site.history (start, base) events, ∀ s, x.series = some s →
      Register.Separate k s := fun x member s taken => separate s (.inr ⟨x, member, taken⟩)
  by_cases permitted : Permitted site.places.register
  · exact settled.history started apart permitted settled rfl separate' unlost sub whole
  · apply forall₂_of_idle
    intro x member
    rw [Bool.eq_false_iff]
    intro issued
    exact permitted
      (settled.permitted_of_mem started apart separate' unlost x (sub.subset member) issued)

end Service

namespace Memo

/-- Two memos about `A`, with a new start and a failed request between them, are answered as they
are in a row. -/
theorem memos_answered_alone :
    let full := site.history (serving, disk definition) visits
    let kept := full.filter (·.issues ⟨"A", 2025⟩)
    kept.length = 2 ∧
      List.Forall₂ (fun x y => y.event = x.event ∧ (x.issues ⟨"A", 2025⟩ = true → y = x)) kept
        (site.history (serving, disk definition) (kept.map Service.Exchange.event)) := by
  intro full kept
  have outlined : full.map outline = _ := outline_visits
  have each {p : Option Series × Bool × Bool → Prop} (all : ∀ y ∈ full.map outline, p y) :
      ∀ x ∈ full, p (outline x) := fun x member => all _ (List.mem_map_of_mem member)
  rw [outlined] at each
  constructor
  · have count : full.countP (·.issues ⟨"A", 2025⟩) = (full.map outline).countP (·.2.1) := by
      rw [List.countP_map]
      rfl
    rw [← List.countP_eq_length_filter, count, outlined]
    rfl
  · have space (s : Series) :
        serving.numbering.register.last s + visits.length < Text.wholeLimit :=
      serving_space (by decide) s
    refine Service.answers_by_own_counter started (apart definition) space ?_
      (each (p := fun y => y.2.2 = false) (by simp)) List.filter_sublist ?_
    · rintro s (used | ⟨x, member, taken⟩)
      · exact absurd rfl used
      · have series := each (p := fun y => y.1 = none ∨ y.1 = some ⟨"A", 2025⟩) (by simp) x member
        rw [outline, taken] at series
        have same := Option.some.inj (series.resolve_left (by simp))
        exact separate_of_entity (congrArg Series.entity same)
    · rw [List.filter_filter]
      simp only [Bool.and_self]
      rfl

end Memo

end MinuteBook
