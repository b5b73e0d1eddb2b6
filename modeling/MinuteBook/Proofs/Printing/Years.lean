import MinuteBook.Proofs.Attempt
import MinuteBook.Proofs.Calendar.Iso
import MinuteBook.Proofs.Markup.Filtered
import MinuteBook.Proofs.Memo

/-!
# The year that is printed is the year of the number

A document is numbered by the year of a date, and it may print that date. The number takes the first
ten characters of a text for the date, the filter the whole text; whatever the filter reads has no
more than ten characters, so both read the same (`Filter.calendarDate?_of_date?`). The number is in
the store when the date is printed, but it takes the place of no other answer. So the year at the
end of the printed date is the one in the number (`Desk.printed_year`).
-/

namespace MinuteBook

/-! ## Two ways to read a date -/

/-- What the filter reads as a date is the same date for the number. -/
theorem Filter.calendarDate?_of_date? {v : Value} {d : Date} (h : date? v = some d) :
    v.calendarDate? = some d := by
  cases v with
  | date e => exact h
  | dateTime t => exact h
  | zoned t z => exact h
  | text s =>
      rw [date?] at h
      rw [Value.calendarDate?, List.take_of_length_le (Date.length_le_of_ofIso? h), h]
  | _ => exact absurd h (by simp [date?])

/-- What the filter reads as a date can be printed. -/
theorem Filter.exists_plain_of_date? {v : Value} {d : Date} (h : date? v = some d) :
    ∃ text, v.plain = .ok text := by
  cases v with
  | date e => exact ⟨_, by rw [Value.plain]⟩
  | dateTime t => exact ⟨_, by rw [Value.plain]⟩
  | zoned t z => exact ⟨_, by rw [Value.plain]⟩
  | text s => exact ⟨_, by rw [Value.plain]⟩
  | _ => exact absurd h (by simp [date?])

/-- The filter prints the date that it reads. -/
theorem Expression.render_longDate {path : String} {s : Store} {d : Date}
    (h : (s.lookup path).bind Filter.date? = some d) :
    (Expression.var path (some "longDate")).render .builtin s = .ok d.long := by
  obtain ⟨v, found, date⟩ := Option.bind_eq_some_iff.1 h
  obtain ⟨text, plain⟩ := Filter.exists_plain_of_date? date
  have filtered : Filters.builtin.apply (some "longDate") v text = Filter.longDate v text := rfl
  rw [Expression.render, found]
  simp only [plain, ok_bind]
  rw [filtered, Filter.longDate, date]
  rfl

/-! ## The number of a document -/

/-- The id of a document of a year after the beginning of the calendar, in its parts. -/
theorem Numbering.idText_year {entity id : String} {year : Nat} {n : Int} {tag : Value}
    (h : idText ⟨entity, year⟩ n tag = .ok id) :
    ∃ place kind, twoPlaces n = .ok place ∧ tag.display = .ok kind ∧
      id = entity ++ "-" ++ Text.nat year ++ "-" ++ place ++ "-RES-" ++ kind := by
  obtain ⟨y, written, h⟩ := bind_eq_ok.1 h
  obtain ⟨place, places, h⟩ := bind_eq_ok.1 h
  obtain ⟨kind, shown, h⟩ := bind_eq_ok.1 h
  obtain ⟨-, rfl⟩ := Value.wholeText_eq_ok_iff.1 written
  have digits : Text.int (year : Int) = Text.nat year := by
    rw [Text.int, Text.nat, if_neg (by omega), Int.natAbs_natCast]
  exact ⟨place, kind, places, shown, by rw [← Except.ok.inj h, digits]⟩

namespace Desk

variable {sys : Numbering.System} {desk desk' : Desk} {entities : Option Entities}
  {today : Date} {t : Template} {answers args : Record} {document : Document} {s : Store}

/-- The series of a date that the filter reads is that of its year. -/
theorem seriesOf_of_date? {path : String} {d : Date} {series : Series}
    (dated : Record.get? args "datePath" = some (.text path))
    (read : (s.lookup path).bind Filter.date? = some d)
    (h : t.seriesOf today args s = .ok series) : series.year = d.year := by
  obtain ⟨v, found, date⟩ := Option.bind_eq_some_iff.1 read
  have day : argument args "datePath" s = .ok (some v) := by
    rw [argument, dated, ← found]
    rfl
  obtain ⟨entity, -, h⟩ := bind_eq_ok.1 h
  obtain ⟨chosen, reads, h⟩ := bind_eq_ok.1 h
  rw [Template.dayOf, day, ok_bind] at reads
  simp only [Option.bind_some, Filter.calendarDate?_of_date? date] at reads
  obtain rfl := Except.ok.inj reads
  obtain rfl := Except.ok.inj h
  rfl

/-- Whatever the filter reads as a date is the same date for the number. So if the number of
a document depends on the date at a path that does not lead into the number itself, then what is
printed for that path as a long date ends in the year that stands in the number, alone and wherever
else a template has its tag. -/
theorem printed_year :
    (∀ (v : Value) (d : Date), Filter.date? v = some d → v.calendarDate? = some d) ∧
    ∀ (sys : Numbering.System) (desk desk' : Desk) (entities : Option Entities)
      (today : Date) (t : Template) (answers args : Record) (document : Document) (path : String),
      t.numberArgs? = some args → Record.get? args "datePath" = some (.text path) →
      Path.front path ≠ numberKey →
      desk.produce sys entities today t answers = (desk', .ok (.produced document)) →
      ∃ s u, t.review entities answers = .ok (s, []) ∧ u = s.withNumber document.number ∧
        t.print s document.number = .ok document ∧
        ∀ d : Date, (u.lookup path).bind Filter.date? = some d →
          ∃ entity place kind day, t.seriesOf today args s = .ok ⟨entity, d.year⟩ ∧
            Numbering.twoPlaces (desk.numbering.register.last ⟨entity, d.year⟩ + 1) = .ok place ∧
            t.typeTag.display = .ok kind ∧
            document.number =
              some (entity ++ "-" ++ Text.nat d.year ++ "-" ++ place ++ "-RES-" ++ kind) ∧
            (Expression.var path (some "longDate")).render .builtin u =
              .ok (day ++ ", " ++ Text.nat d.year) ∧
            ∀ name before after, Path.InTag path name → Markup.Closed before →
              Markup.render .builtin (before ++ (filterTag path "longDate" ++ after)) u = do
                return (← Markup.render .builtin before u) ++
                  ((day ++ ", " ++ Text.nat d.year) ++ (← Markup.render .builtin after u)) := by
  refine ⟨fun v d => Filter.calendarDate?_of_date?, ?_⟩
  intro sys desk desk' entities today t answers args document path wanted dated other produced
  obtain ⟨s, series, id, reviewed, found, text, printed⟩ := exists_of_produced wanted produced
  have number : document.number = some id := number_of_print printed
  refine ⟨s, s.set numberKey (.text id), reviewed, by rw [number]; rfl, number ▸ printed, ?_⟩
  intro d read
  have long := Expression.render_longDate read
  rw [Store.lookup_set_of_ne other] at read
  obtain ⟨entity, year⟩ := series
  obtain rfl : year = d.year := seriesOf_of_date? dated read found
  obtain ⟨place, kind, places, shown, rfl⟩ := Numbering.idText_year text
  refine ⟨entity, place, kind, _, found, places, shown, number, long, ?_⟩
  intro name before after inTag closed
  have filter : Token.IsWord "longDate".toList := ⟨by decide, List.all_eq_true.1 (by rfl)⟩
  have whole : Markup.Sealed '\x7d' "longDate".toList :=
    Markup.sealed_of_not_mem (by decide)
  rw [inTag.render_filterTag filter whole closed, long]
  rfl

end Desk

namespace Memo

/-- A memo that is numbered by the day on which it was signed, and prints that day. -/
def signed : Template :=
  { template "" with
    fields := [{ numberField with
      computation := some ⟨.text numberFunction,
        [("entityIdPath", .text entityKey), ("datePath", .text "day")]⟩ }]
    body := "Signed on \x7b\x7bday | longDate\x7d\x7d." }

/-- A memo signed on the fourth day of the ninth week of 2024. -/
def signedAnswers : Record := [("e", .text "ACME"), ("day", .text " 2024-W09-4")]

/-- The memo as it is made, on a desk without a file. -/
def signedDocument : Document :=
  ⟨"", "Signed on February 29, 2024.", "", some "ACME-2024-01-RES-M"⟩

/-- The store from which it is printed. -/
def signedStore : Store :=
  Store.withNumber ⟨signedAnswers, signed.metadata⟩ signedDocument.number

end Memo

/-- For instance, of a memo signed in a week of 2024 and made in 2025 both years are 2024. -/
theorem Desk.printed_year_of_memo :
    (∃ desk', produce Numbering.System.willing ⟨⟨.empty, none⟩, .empty⟩ none Memo.newYear
      Memo.signed Memo.signedAnswers = (desk', .ok (.produced Memo.signedDocument))) ∧
    (Memo.signedStore.lookup "day").bind Filter.date? = some ⟨2024, 2, 29, by decide⟩ ∧
    ∃ entity place kind day,
      Memo.signedDocument.number =
        some (entity ++ "-" ++ Text.nat 2024 ++ "-" ++ place ++ "-RES-" ++ kind) ∧
      Markup.render .builtin "Signed on \x7b\x7bday | longDate\x7d\x7d." Memo.signedStore =
        .ok ("Signed on " ++ ((day ++ ", " ++ Text.nat 2024) ++ ".")) := by
  have made : ∃ desk', produce Numbering.System.willing ⟨⟨.empty, none⟩, .empty⟩ none Memo.newYear
      Memo.signed Memo.signedAnswers = (desk', .ok (.produced Memo.signedDocument)) :=
    ⟨_, Prod.ext rfl (by decide +kernel)⟩
  have read : (Memo.signedStore.lookup "day").bind Filter.date? =
      some ⟨2024, 2, 29, by decide⟩ := by decide +kernel
  refine ⟨made, read, ?_⟩
  obtain ⟨desk', whole⟩ := made
  obtain ⟨s, u, reviewed, rfl, -, years⟩ := printed_year.2 _ _ _ _ _ Memo.signed _
    [("entityIdPath", .text Memo.entityKey), ("datePath", .text "day")] _ "day" (by rfl)
    (by decide +kernel) (by decide +kernel) whole
  have answers : Memo.signed.review none Memo.signedAnswers =
      .ok (⟨Memo.signedAnswers, Memo.signed.metadata⟩, []) := by decide +kernel
  obtain ⟨rfl, -⟩ := Prod.mk.inj (Except.ok.inj (reviewed.symm.trans answers))
  obtain ⟨entity, place, kind, day, -, -, -, number, -, tags⟩ := years _ read
  have inTag : Path.InTag "day" "day" :=
    ⟨⟨[], [], Token.gap_nil, Token.gap_nil, by simp⟩,
      ⟨⟨by decide, List.all_eq_true.1 (by rfl)⟩, Markup.noPair_of_not_mem (by decide)⟩, by decide⟩
  have plain (text : String) (free : '\x7b' ∉ text.toList) (store : Store) :
      Markup.render .builtin text store = .ok text :=
    Markup.render_text (Markup.noPair_of_not_mem free) _ store
  have printed := tags "day" "Signed on " "." inTag
    (Markup.closed_text (Markup.sealed_of_not_mem (by decide)))
  rw [plain "Signed on " (by decide), plain "." (by decide)] at printed
  exact ⟨entity, place, kind, day, number, printed⟩

end MinuteBook
