import MinuteBook.Proofs.Keeping
import MinuteBook.Proofs.Restarting

/-!
# Requests and restarts in a row

The history of a service: what was asked of it, or that it was started again, each with the response
and the series from which a number was wanted. A service stays `Settled` on the disk on which it was
first started as long as no number of a given series is lost: templates and entities remain, the
disk changes by writes of the register alone, and the counter of the series is that of the file
(`Settled.step`). This is so whatever the front through which it is asked, and whatever the reader
of its files.
-/

namespace MinuteBook

open Disk (Permitted)
open MinuteBook.Numbering (Within Writable)

/-- Says whether a number that was taken for a request stays taken if the request is left without an
answer for the given reason. -/
def Stop.loses : Stop → Bool
  | .failed e => e.saveError?.isNone
  | .foreign _ => true

namespace Service

variable {ρ α : Type}

/-- What happens to a service: a request, with what the operating system decides meanwhile, or a new
start. -/
inductive Event (ρ : Type) where
  | request (sys : Numbering.System) (r : ρ)
  | restart

/-- An event with what came of it. -/
structure Exchange (ρ α : Type) where
  event : Event ρ
  /-- The series of which a number was wanted. -/
  series : Option Series
  /-- The response to a request, or why there was none. -/
  response : Option (Except Stop (Response α))

namespace Exchange

/-- Says whether a document was made with a number of a series. -/
def issues (x : Exchange ρ α) (k : Series) : Bool :=
  decide (x.series = some k) && match x.response with
    | some (.ok response) => response.status == 200
    | _ => false

/-- Says whether a number of a series was lost: it was taken, and there was no answer. -/
def loses (x : Exchange ρ α) (k : Series) : Bool :=
  decide (x.series = some k) && match x.response with
    | some (.error stop) => stop.loses
    | _ => false

end Exchange

/-- The template of which a request wants a document, and the answers for it. -/
def wanted? (front : Front ρ α) (s : Service) (r : ρ) : Option (Template × Record) :=
  match front.destination r with
  | .route (.generate id) =>
    match s.catalogue.find? (.text id), front.data r with
    | some t, .ok (.mapping answers) => some (t, answers)
    | _, _ => none
  | _ => none

/-- The series of which a request wants a number. -/
def series? (front : Front ρ α) (s : Service) (today : Date) (r : ρ) : Option Series :=
  (s.wanted? front r).bind fun x => x.1.series? s.entities today x.2

/-- What remains the same while a service is asked and started again. -/
structure Site (ρ α : Type) where
  places : Places
  reader : DataFile.Reader
  front : Front ρ α
  today : Date
  words : DataFile.Wording

namespace Site

/-- What surrounds the service during a request. -/
def around (site : Site ρ α) (sys : Numbering.System) : Surroundings :=
  ⟨site.today, sys, site.words⟩

/-- A first start at the site: the service, if it starts. -/
def Starts (site : Site ρ α) (d : Disk) (s : Service) : Prop :=
  (blank site.places).restart site.reader site.places d = (s, .ok ())

/-- What an event makes of a service and its disk, and what comes of it. -/
def step (site : Site ρ α) (now : Service × Disk) : Event ρ → (Service × Disk) × Exchange ρ α
  | .request sys r =>
    let (s, d, response) := now.1.answer site.front (site.around sys) now.2 r
    ((s, d), ⟨.request sys r, now.1.series? site.front site.today r, some response⟩)
  | .restart =>
    (((now.1.restart site.reader site.places now.2).1, now.2), ⟨.restart, none, none⟩)

/-- What comes of events in a row. -/
def history (site : Site ρ α) (now : Service × Disk) : List (Event ρ) → List (Exchange ρ α)
  | [] => []
  | e :: events => (site.step now e).2 :: site.history (site.step now e).1 events

end Site

variable {front : Front ρ α} {s start : Service} {around : Surroundings} {d base : Disk} {r : ρ}
  {t : Template} {site : Site ρ α} {k : Series} {room : Nat} {now : Service × Disk} {e : Event ρ}

/-! ## A request -/

/-- A request for a document, as an attempt at it. -/
def callFor (s : Service) (around : Surroundings) (x : Template × Record) : Call :=
  ⟨around.system, s.entities, around.today, x.1, x.2⟩

theorem answer_of_wanted {x : Template × Record} (h : s.wanted? front r = some x) :
    s.answer front around d r =
      ({ s with numbering := (Desk.answer ⟨s.numbering, d⟩ (s.callFor around x)).1.numbering },
        (Desk.answer ⟨s.numbering, d⟩ (s.callFor around x)).1.disk,
        front.report r around.words (Desk.answer ⟨s.numbering, d⟩ (s.callFor around x)).2) := by
  unfold wanted? at h
  split at h
  · rename_i id found
    split at h
    · rename_i t answers template data
      obtain rfl := Option.some.inj h
      rw [answer, found]
      simp only [answerAt, generate, template, data]
      rfl
    · exact absurd h (by simp)
  · exact absurd h (by simp)

/-- Any other request leaves everything as it is. -/
theorem answer_of_not_wanted (around : Surroundings) (d : Disk) (h : s.wanted? front r = none) :
    (s.answer front around d r).1 = s ∧ (s.answer front around d r).2.1 = d := by
  unfold answer
  cases found : front.destination r with
  | elsewhere answer => exact ⟨rfl, rfl⟩
  | route route =>
      cases route with
      | templates => exact ⟨rfl, rfl⟩
      | template id => exact ⟨rfl, rfl⟩
      | defaults id => exact ⟨rfl, rfl⟩
      | entities => exact ⟨rfl, rfl⟩
      | generate id =>
          simp only [wanted?, found] at h
          simp only [answerAt, generate]
          split
          · exact ⟨rfl, rfl⟩
          · rename_i template
            split
            · exact ⟨rfl, rfl⟩
            · rename_i answers data
              simp [template, data] at h
            · exact ⟨rfl, rfl⟩

theorem step_request {sys : Numbering.System} {x : Template × Record}
    (h : now.1.wanted? site.front r = some x) :
    let c := now.1.callFor (site.around sys) x
    let after := Desk.answer ⟨now.1.numbering, now.2⟩ c
    site.step now (.request sys r) =
      (({ now.1 with numbering := after.1.numbering }, after.1.disk),
        ⟨.request sys r, c.series?, some (site.front.report r site.words after.2)⟩) := by
  intro c after
  have series : now.1.series? site.front site.today r = c.series? := by
    rw [series?, h]
    rfl
  rw [Site.step, answer_of_wanted h, series]
  rfl

theorem step_of_not_wanted (site : Site ρ α) (sys : Numbering.System)
    (h : now.1.wanted? site.front r = none) : (site.step now (.request sys r)).1 = now ∧
      (site.step now (.request sys r)).2.series = none := by
  constructor
  · have same := answer_of_not_wanted (site.around sys) now.2 h
    rw [Site.step]
    generalize now.1.answer _ _ now.2 r = after at same
    exact Prod.ext same.1 same.2
  · change now.1.series? site.front site.today r = none
    rw [series?, h]
    rfl

/-- A number that could not be saved is neither lost nor that of a document, whether the request has
got an answer or not. -/
theorem idle_of_unsaved (e : Event ρ) (series : Option Series) (front : Front ρ α) (r : ρ)
    (words : DataFile.Wording) (t : Template) (number : String) (cause : Numbering.SaveError) :
    let x : Exchange ρ α :=
      ⟨e, series, some (front.report r words (.error (t.unsaved number cause)))⟩
    x.loses k = false ∧ x.issues k = false := by
  intro x
  have kept := t.saveError?_unsaved number cause
  cases failed : t.unsaved number cause with
  | fault f => exact absurd (failed ▸ kept) (by simp [Failure.saveError?])
  | notSaved e => simp [x, failed, Exchange.loses, Exchange.issues, Front.report, Front.fail]
  | unnoted e f =>
      simp [x, failed, Exchange.loses, Exchange.issues, Front.report, Stop.loses,
        Failure.saveError?]

/-- Unless a number of the series is lost, the response tells what became of the attempt. -/
theorem issues_eq {desk desk' : Desk} {c : Call} {result : Except Failure Outcome}
    {words : DataFile.Wording} (step : desk.answer c = (desk', result))
    (unlost : (⟨e, c.series?, some (front.report r words result)⟩ : Exchange ρ α).loses k =
      false) :
    (⟨c, result⟩ : Answered).loses k = false ∧
      (⟨e, c.series?, some (front.report r words result)⟩ : Exchange ρ α).issues k =
        (⟨c, result⟩ : Answered).issues k := by
  by_cases taken : c.series? = some k
  · have spec := Desk.answer_spec step
    simp only [taken] at spec
    cases spec with
    | withdrawn _ failed =>
        subst failed
        obtain ⟨-, none⟩ := idle_of_unsaved e c.series? front r words c.template _ _
        refine ⟨?_, none.trans ?_⟩
        · simp [Answered.loses]
        · simp [Answered.issues, Answered.number?]
    | unsaved =>
        exact absurd unlost (by simp [Exchange.loses, taken, Front.report, Stop.loses,
          Failure.saveError?])
    | unprinted =>
        exact absurd unlost (by simp [Exchange.loses, taken, Front.report, Stop.loses,
          Failure.saveError?])
    | @issued d document number _ _ carried =>
        refine ⟨by simp [Answered.loses], ?_⟩
        rw [Exchange.loses, Front.report, Front.respond] at unlost
        rw [Exchange.issues, Answered.issues, Front.report, Front.respond]
        cases sent : front.encode r (Outcome.produced document).toValue with
        | error f => simp [sent, taken, Stop.loses] at unlost
        | ok body => simp [taken, Answered.number?, carried]
  · simp [Answered.loses, Answered.issues, Exchange.issues, taken]

/-! ## One event after another -/

/-- A service, and a disk, as they are after any number of events in which no number of a series was
lost: what was read at the start is as it was, but for the register, whose counter of that series is
the one in the file; and without templates nothing has been written. -/
structure Settled (site : Site ρ α) (base : Disk) (start : Service) (k : Series) (room : Nat)
    (now : Service × Disk) : Prop where
  catalogue : now.1.catalogue = start.catalogue
  entities : now.1.entities = start.entities
  within : Within site.places.register base now.2
  idle : start.catalogue.templates = [] → now.2 = base
  keeps : Desk.Keeps site.places.register k room ⟨now.1.numbering, now.2⟩

theorem Settled.mono {room' : Nat} (h : Settled site base start k room now) (less : room' ≤ room) :
    Settled site base start k room' now :=
  { h with keeps := h.keeps.mono less }

/-- Without templates no document is wanted. -/
theorem templates_ne_nil {x : Template × Record} (h : s.wanted? front r = some x) :
    s.catalogue.templates ≠ [] := by
  intro none
  unfold wanted? at h
  split at h
  · simp [Catalogue.find?, none] at h
  · exact absurd h (by simp)

theorem Settled.step (started : site.Starts base start) (apart : site.places.Apart base)
    (h : Settled site base start k (room + 1) now)
    (separate : ∀ s, (site.step now e).2.series = some s → Register.Separate k s)
    (unlost : (site.step now e).2.loses k = false) :
    Settled site base start k room (site.step now e).1 ∧
      (site.step now e).1.1.numbering.register.last k = now.1.numbering.register.last k +
        if (site.step now e).2.issues k then 1 else 0 := by
  cases e with
  | restart =>
      obtain ⟨q, loaded, steady, same⟩ := h.keeps.kept
      have steady := steady.mono (Nat.le_succ room)
      have keeps : Desk.Keeps site.places.register k room
          ⟨⟨q, some site.places.register⟩, now.2⟩ :=
        ⟨rfl, steady, h.keeps.leads, q, loaded, steady, rfl⟩
      rw [Site.step, restart_again apart started h.within h.idle h.catalogue loaded]
      refine ⟨⟨rfl, rfl, h.within, h.idle, keeps⟩, ?_⟩
      simpa [Exchange.issues] using same
  | request sys r =>
      cases wanted : now.1.wanted? site.front r with
      | none =>
          obtain ⟨still, none⟩ := step_of_not_wanted site sys wanted
          rw [still]
          refine ⟨h.mono (Nat.le_succ room), ?_⟩
          simp [Exchange.issues, none]
      | some x =>
          rw [step_request wanted] at separate unlost ⊢
          simp only at separate unlost ⊢
          generalize step : Desk.answer ⟨now.1.numbering, now.2⟩ _ = after at *
          obtain ⟨desk, result⟩ := after
          obtain ⟨unlost, issues⟩ := issues_eq step unlost
          obtain ⟨keeps, moved⟩ := h.keeps.answer step separate unlost
          have within := Desk.within_answer h.keeps.place h.within
            (now.1.callFor (site.around sys) x)
          rw [step] at within
          have some := templates_ne_nil wanted
          rw [h.catalogue] at some
          refine ⟨⟨h.catalogue, h.entities, within, fun none => absurd none some, keeps⟩, ?_⟩
          rw [issues, moved, countIssued, List.countP_singleton]
          split <;> rfl

end Service

end MinuteBook
