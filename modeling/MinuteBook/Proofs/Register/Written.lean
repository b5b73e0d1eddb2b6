import Mathlib.Data.Finset.Max
import MinuteBook.Proofs.Attempts
import MinuteBook.Proofs.Json.Reading
import MinuteBook.Proofs.Register.Counters

/-!
# The written form of a register

A register that has a written form is read back from it: `read_text` and `ofValue_writtenValue`
follow the text of the file, row by row, through the reader of JSON and the reader of registers.
What comes back is `reread`, in which the halves inside the names of entities are put together. The
counters come back as they were exactly if the names are whole.
-/

namespace MinuteBook

namespace Register

/-! ## Reading counters -/

theorem nonneg_of_counterOf {v : Value} {c : Series × Int} (h : counterOf v = .ok c) : 0 ≤ c.2 := by
  unfold counterOf at h
  split at h
  · exact absurd h (by simp)
  · obtain ⟨_, _, h⟩ := bind_eq_ok.1 h
    exact absurd h (by simp [throw, throwThe, MonadExceptOf.throw])
  · split at h
    · obtain ⟨_, _, h⟩ := bind_eq_ok.1 h
      exact absurd h (by simp [throw, throwThe, MonadExceptOf.throw])
    · obtain rfl := Except.ok.inj h
      omega

/-- What is read as a register is sound. -/
theorem sound_of_ofValue {v : Value} {r : Register} (h : ofValue v = .ok r) : r.Sound := by
  unfold ofValue at h
  split at h
  · obtain ⟨cs, hcs, h⟩ := bind_eq_ok.1 h
    obtain rfl := Except.ok.inj h
    apply sound_empty.foldl_raise
    intro c hc
    obtain ⟨v, -, hv⟩ := exists_of_mem_mapM hcs hc
    exact nonneg_of_counterOf hv
  · exact absurd h (by simp)

/-! ## Rows -/

/-- A series under the name that is read back. -/
def rejoin (s : Series) : Series := ⟨Text.rejoined s.entity, s.year⟩

/-- A counter as it is read back. -/
def rereadRow (c : Series × Int) : Series × Int := (rejoin c.1, c.2)

/-- The value that a row of the file spells. -/
def writtenRow (c : Series × Int) : Value :=
  .mapping [("entityId", .text (rejoin c.1).entity), ("value", .int c.2), ("year", .int c.1.year)]

theorem counterOf_writtenRow {c : Series × Int} (h : 0 ≤ c.2) :
    counterOf (writtenRow c) = .ok (rereadRow c) := by
  have entry : entryOf (writtenRow c) = .ok (rereadRow c) := rfl
  rw [counterOf, entry]
  exact if_neg (Int.not_lt.2 h)

/-- A row of the file without the blanks before it. -/
def rowBody (c : Series × Int) : List Char :=
  '\x7b' :: '\n' :: ("      \"entityId\": ".toList ++ (Json.quote .ascii c.1.entity ++
    (",\n      \"value\": ".toList ++ ((Text.int c.2).toList ++
      (",\n      \"year\": ".toList ++ ((Text.int c.1.year).toList ++ "\n    \x7d".toList))))))

/-- A row whose numbers are short enough to be written. -/
def Short (c : Series × Int) : Prop :=
  c.1.year.natAbs < Text.wholeLimit ∧ c.2.natAbs < Text.wholeLimit

theorem short_of_lt {entity : String} {year value : Int} (h : year.natAbs < 10000)
    (h' : value.natAbs < 10000) : Short (⟨entity, year⟩, value) :=
  ⟨Text.lt_wholeLimit (k := 4) h (by decide), Text.lt_wholeLimit (k := 4) h' (by decide)⟩

theorem rowText_eq_ok {c : Series × Int} {t : List Char} (h : rowText c = .ok t) :
    Short c ∧ t = "    ".toList ++ rowBody c := by
  unfold rowText at h
  obtain ⟨value, hvalue, h⟩ := bind_eq_ok.1 h
  obtain ⟨year, hyear, h⟩ := bind_eq_ok.1 h
  obtain ⟨shortValue, rfl⟩ := Value.wholeText_eq_ok_iff.1 hvalue
  obtain ⟨shortYear, rfl⟩ := Value.wholeText_eq_ok_iff.1 hyear
  refine ⟨⟨shortYear, shortValue⟩, ?_⟩
  rw [← Except.ok.inj h]
  simp [rowBody]

/-- A row is read up to its closing brace. -/
theorem readValue_rowBody {c : Series × Int} (h : Short c) (n : Nat) (r : List Char) :
    Json.readValue (n + 5) (rowBody c ++ r) = some (writtenRow c, r) := by
  -- The rest of the row behind each of its values.
  let afterYear := "\n    \x7d".toList ++ r
  let afterValue := ",\n      \"year\": ".toList ++ ((Text.int c.1.year).toList ++ afterYear)
  let afterName := ",\n      \"value\": ".toList ++ ((Text.int c.2).toList ++ afterValue)
  have year : Json.readValue (n + 1)
      (Json.skip (' ' :: ((Text.int c.1.year).toList ++ afterYear))) =
      some (.int c.1.year, afterYear) :=
    (congrArg _ (Json.skip_int _ _)).trans (Json.readValue_int n h.1 (c := '\n') (by decide) _)
  have value : Json.readValue (n + 2) (Json.skip (' ' :: ((Text.int c.2).toList ++ afterValue))) =
      some (.int c.2, afterValue) :=
    (congrArg _ (Json.skip_int _ _)).trans (Json.readValue_int (n + 1) h.2 (c := ',') (by decide) _)
  have name : Json.readValue (n + 3)
      (Json.skip (' ' :: (Json.quote .ascii c.1.entity ++ afterName))) =
      some (.text (Text.rejoined c.1.entity), afterName) :=
    Json.readValue_quote (n + 2) c.1.entity afterName
  have third : Json.readEntries (n + 2)
      ("\"year\":".toList ++ (' ' :: ((Text.int c.1.year).toList ++ afterYear))) =
      some ([(.text "year", .int c.1.year)], r) :=
    Json.readEntries_last (by rfl) year (by rfl)
  have second : Json.readEntries (n + 3)
      ("\"value\":".toList ++ (' ' :: ((Text.int c.2).toList ++ afterValue))) =
      some ([(.text "value", .int c.2), (.text "year", .int c.1.year)], r) :=
    Json.readEntries_more (by rfl) value (by rfl) (by rfl) third
  have first : Json.readEntries (n + 4)
      ("\"entityId\":".toList ++ (' ' :: (Json.quote .ascii c.1.entity ++ afterName))) =
      some ([(.text "entityId", .text (Text.rejoined c.1.entity)), (.text "value", .int c.2),
        (.text "year", .int c.1.year)], r) :=
    Json.readEntries_more (by rfl) name (by rfl) (by rfl) second
  have body : rowBody c ++ r = '\x7b' :: ("\n      \"entityId\":".toList ++
      (' ' :: (Json.quote .ascii c.1.entity ++ afterName))) := by
    simp only [rowBody, List.cons_append, List.append_assoc]
    rfl
  rw [body]
  exact Json.readValue_mapping (by rfl) first

/-! ## The whole file -/

/-- Rows without the blanks before the first. -/
def rowsBody (c : Series × Int) : List (Series × Int) → List Char
  | [] => rowBody c
  | d :: ds => rowBody c ++ (",\n    ".toList ++ rowsBody d ds)

theorem rowsText_eq_ok {c : Series × Int} {cs : List (Series × Int)} {t : List Char}
    (h : rowsText (c :: cs) = .ok t) :
    (∀ d ∈ c :: cs, Short d) ∧ t = "    ".toList ++ rowsBody c cs := by
  induction cs generalizing c t with
  | nil =>
      obtain ⟨short, rfl⟩ := rowText_eq_ok h
      exact ⟨by simpa using short, rfl⟩
  | cons d ds ih =>
      rw [rowsText] at h
      · obtain ⟨row, hrow, h⟩ := bind_eq_ok.1 h
        obtain ⟨rows, hrows, h⟩ := bind_eq_ok.1 h
        obtain ⟨short, rfl⟩ := rowText_eq_ok hrow
        obtain ⟨shorts, rfl⟩ := ih hrows
        refine ⟨List.forall_mem_cons.2 ⟨short, shorts⟩, ?_⟩
        rw [← Except.ok.inj h, rowsBody]
        simp
      · simp

theorem skip_rowsBody (c : Series × Int) (cs : List (Series × Int)) (r : List Char) :
    Json.skip (rowsBody c cs ++ r) = rowsBody c cs ++ r := by
  cases cs <;> rfl

/-- Rows are read up to the bracket behind them. -/
theorem readItems_rowsBody {c : Series × Int} {cs : List (Series × Int)}
    (h : ∀ d ∈ c :: cs, Short d) (n : Nat) (r : List Char) :
    Json.readItems (n + cs.length + 6) (rowsBody c cs ++ ("\n  ]".toList ++ r)) =
      some ((c :: cs).map writtenRow, r) := by
  induction cs generalizing c with
  | nil =>
      rw [List.forall_mem_singleton] at h
      exact Json.readItems_last (readValue_rowBody h n _) (by rfl)
  | cons d ds ih =>
      rw [List.forall_mem_cons] at h
      have first := readValue_rowBody h.1 (n + ds.length + 1)
        (",\n    ".toList ++ (rowsBody d ds ++ ("\n  ]".toList ++ r)))
      rw [rowsBody, List.append_assoc, List.append_assoc]
      refine Json.readItems_more first (by rfl) ?_ (ih h.2)
      exact skip_rowsBody d ds _

/-- The text of a register, character by character. -/
theorem text_eq_ok {r : Register} {t : String} (h : r.text = .ok t) :
    (∀ c ∈ r.rows, Short c) ∧
      ((r.rows = [] ∧ t.toList = "\x7b\n  \"counters\": []\n\x7d".toList) ∨
        ∃ c cs, r.rows = c :: cs ∧
          t.toList = "\x7b\n  \"counters\": [\n    ".toList ++
            (rowsBody c cs ++ "\n  ]\n\x7d".toList)) := by
  unfold text at h
  split at h
  · rename_i none
    rw [none]
    exact ⟨by simp, .inl ⟨rfl, by rw [← Except.ok.inj h]⟩⟩
  · rename_i some
    obtain ⟨c, cs, rows⟩ := List.exists_cons_of_ne_nil some
    rw [rows] at h ⊢
    obtain ⟨body, hbody, h⟩ := bind_eq_ok.1 h
    obtain ⟨shorts, rfl⟩ := rowsText_eq_ok hbody
    refine ⟨shorts, .inr ⟨c, cs, rfl, ?_⟩⟩
    rw [← Except.ok.inj h, String.toList_ofList]
    simp

theorem rows_perm (r : Register) : r.rows.Perm r.counters := List.mergeSort_perm _ _

/-- Numbers that are short enough are all that a register needs to have a text. -/
theorem exists_text {r : Register} (h : ∀ c ∈ r.counters, Short c) : ∃ t, r.text = .ok t := by
  have row {c : Series × Int} (short : Short c) : ∃ t, rowText c = .ok t := by
    rw [rowText, Value.wholeText_of_lt short.1, Value.wholeText_of_lt short.2]
    exact ⟨_, rfl⟩
  have rows (cs : List (Series × Int)) (short : ∀ c ∈ cs, Short c) : ∃ t, rowsText cs = .ok t := by
    fun_induction rowsText cs with
    | case1 => exact ⟨_, rfl⟩
    | case2 c => exact row (short c List.mem_cons_self)
    | case3 c cs _ ih =>
        obtain ⟨t, ht⟩ := row (short c List.mem_cons_self)
        obtain ⟨u, hu⟩ := ih fun d hd => short d (List.mem_cons_of_mem c hd)
        rw [ht, hu]
        exact ⟨_, rfl⟩
  obtain ⟨body, hbody⟩ := rows r.rows fun c hc => h c ((rows_perm r).mem_iff.1 hc)
  unfold text
  split
  · exact ⟨_, rfl⟩
  · rw [hbody]
    exact ⟨_, rfl⟩

/-! ## Line ends -/

theorem no_return_hex {n : Nat} (h : n < 0x10000) : '\r' ∉ Text.hex 4 n := by
  have digit (d : Nat) (hd : d < 16) : '\r' ≠ d.digitChar := by
    have all : ∀ d : Fin 16, '\r' ≠ d.val.digitChar := by decide
    exact all ⟨d, hd⟩
  rw [Text.hex_four h]
  simp only [List.mem_cons, List.not_mem_nil, or_false, not_or]
  exact ⟨digit _ (by omega), digit _ (by omega), digit _ (by omega), digit _ (by omega)⟩

theorem no_return_unitEscape {n : Nat} (h : n < 0x10000) : '\r' ∉ Json.unitEscape n := by
  have hex := no_return_hex h
  simp [Json.unitEscape, hex]

/-- A line end inside a text is written with a letter. -/
theorem no_return_spelled {units : List Nat} {chars : List Char} (h : Json.Spelled units chars) :
    '\r' ∉ chars := by
  cases h with
  | letter e n h =>
      have other : '\r' ≠ e := by
        rintro rfl
        simp [Json.escape?] at h
      simpa using other
  | unit n h => exact no_return_unitEscape h
  | plain c quote slash visible =>
      rw [List.mem_singleton]
      rintro rfl
      exact visible (by decide)
  | pair m n hm hn =>
      rw [List.mem_append, not_or]
      exact ⟨no_return_unitEscape hm, no_return_unitEscape hn⟩

theorem no_return_quote (s : String) : '\r' ∉ Json.quote .ascii s := by
  have char (c : Char) : '\r' ∉ Json.escapeChar .ascii c :=
    no_return_spelled (Json.spelled_escapeChar c)
  simp only [Json.quote, List.cons_append, List.mem_cons, List.mem_append, List.mem_flatMap,
    List.not_mem_nil, or_false, not_or, not_exists, not_and]
  exact ⟨by decide, fun c _ => char c, by decide⟩

theorem no_return_int (n : Int) : '\r' ∉ (Text.int n).toList := by
  have digits : '\r' ∉ Text.natDigits n.natAbs := by
    intro h
    exact absurd (Text.isDigit_of_mem_natDigits h) (by decide)
  rw [Text.int, String.toList_ofList]
  split
  · rw [List.mem_cons, not_or]
    exact ⟨by decide, digits⟩
  · exact digits

theorem no_return_rowBody (c : Series × Int) : '\r' ∉ rowBody c := by
  have := no_return_quote c.1.entity
  have := no_return_int c.2
  have := no_return_int c.1.year
  simp_all [rowBody]

theorem no_return_rowsBody (c : Series × Int) (cs : List (Series × Int)) :
    '\r' ∉ rowsBody c cs := by
  induction cs generalizing c with
  | nil => exact no_return_rowBody c
  | cons d ds ih =>
      rw [rowsBody, List.mem_append, List.mem_append, not_or, not_or]
      exact ⟨no_return_rowBody c, by decide, ih d⟩

/-- The text of a register has no line ends but line feeds, so it is read as it was written. -/
theorem no_return_text {r : Register} {t : String} (h : r.text = .ok t) : '\r' ∉ t.toList := by
  obtain ⟨-, ⟨-, chars⟩ | ⟨c, cs, -, chars⟩⟩ := text_eq_ok h
  · rw [chars]
    decide
  · rw [chars, List.mem_append, List.mem_append, not_or, not_or]
    exact ⟨by decide, no_return_rowsBody c cs, by decide⟩

/-! ## The text as JSON -/

/-- The value that the text of a register spells. -/
def writtenValue (r : Register) : Value := .mapping [("counters", .list (r.rows.map writtenRow))]

theorem length_rowsBody (c : Series × Int) (cs : List (Series × Int)) :
    cs.length ≤ (rowsBody c cs).length := by
  induction cs generalizing c with
  | nil => exact Nat.zero_le _
  | cons d ds ih =>
      have := ih d
      simp only [rowsBody, List.length_append, List.length_cons, String.length_toList] at this ⊢
      have : 0 < ",\n    ".length := by decide
      omega

theorem readValue_empty (n : Nat) :
    Json.readValue (n + 3) "\x7b\n  \"counters\": []\n\x7d".toList =
      some (.mapping [("counters", .list [])], []) := by
  have items : Json.readValue (n + 1) (Json.skip " []\n\x7d".toList) =
      some (.list [], "\n\x7d".toList) := by
    rfl
  exact Json.readValue_mapping (by rfl) (Json.readEntries_last (by rfl) items (by rfl))

theorem readValue_rows {c : Series × Int} {cs : List (Series × Int)} (h : ∀ d ∈ c :: cs, Short d)
    (n : Nat) :
    Json.readValue (n + cs.length + 9)
      ("\x7b\n  \"counters\": [\n    ".toList ++ (rowsBody c cs ++ "\n  ]\n\x7d".toList)) =
      some (.mapping [("counters", .list ((c :: cs).map writtenRow))], []) := by
  have brace : ∀ t, rowsBody c cs ++ ("\n  ]".toList ++ "\n\x7d".toList) ≠ ']' :: t := by
    cases cs <;> simp [rowsBody, rowBody]
  have items : Json.readValue (n + cs.length + 7)
      ('[' :: ("\n    ".toList ++ (rowsBody c cs ++ ("\n  ]".toList ++ "\n\x7d".toList)))) =
      some (.list ((c :: cs).map writtenRow), "\n\x7d".toList) :=
    Json.readValue_list (skip_rowsBody c cs _) brace (readItems_rowsBody h n _)
  exact Json.readValue_mapping (by rfl) (Json.readEntries_last (by rfl) items (by rfl))

/-- The text of a register is JSON for that value. -/
theorem read_text {r : Register} {t : String} (h : r.text = .ok t) :
    Json.read t = some (writtenValue r) := by
  obtain ⟨shorts, ⟨none, chars⟩ | ⟨c, cs, rows, chars⟩⟩ := text_eq_ok h
  · have fuel : 2 * t.toList.length + 2 = 2 * t.toList.length - 1 + 3 := by
      rw [chars]; decide
    have value := readValue_empty (2 * t.toList.length - 1)
    rw [← fuel, ← chars] at value
    have start : Json.skip t.toList = t.toList := by
      rw [chars]; rfl
    rw [Json.read]
    simp only [start, value]
    simp [writtenValue, none, Json.skip]
  · rw [rows] at shorts
    have long : cs.length + 9 ≤ 2 * t.toList.length + 2 := by
      have := length_rowsBody c cs
      have ends : "\x7b\n  \"counters\": [\n    ".toList.length = 22 := by decide
      rw [chars, List.length_append, List.length_append, ends]
      omega
    have value := readValue_rows shorts (2 * t.toList.length + 2 - (cs.length + 9))
    rw [← chars, Nat.add_assoc, Nat.sub_add_cancel long] at value
    have start : Json.skip t.toList = t.toList := by
      rw [chars]; rfl
    rw [Json.read]
    simp only [start, value]
    simp [writtenValue, rows, Json.skip]

/-! ## The register that comes back -/

/-- The register that is read from the text of a register. -/
def reread (r : Register) : Register := (r.rows.map rereadRow).foldl raise empty

theorem ofValue_writtenValue {r : Register} (h : r.Sound) :
    ofValue (writtenValue r) = .ok r.reread := by
  have counters : (r.rows.map writtenRow).mapM counterOf = .ok (r.rows.map rereadRow) := by
    rw [List.mapM_map]
    apply mapM_eq_ok_map
    intro c hc
    exact counterOf_writtenRow (h.nonneg c ((rows_perm r).mem_iff.1 hc))
  have found : (writtenValue r).record?.bind (fun es => Record.get? es "counters") =
      some (.list (r.rows.map writtenRow)) := rfl
  rw [ofValue, found]
  simp only [counters, ok_bind]
  rfl

theorem sound_reread {r : Register} (h : r.Sound) : r.reread.Sound :=
  sound_of_ofValue (ofValue_writtenValue h)

theorem rejoin_eq_self {s : Series} (h : Text.Whole s.entity) : rejoin s = s := by
  rw [rejoin, (Text.rejoined_eq_self_iff s.entity).2 h]

theorem last_raise (r : Register) (c : Series × Int) (s : Series) :
    (r.raise c).last s = if s = c.1 then max c.2 (r.last c.1) else r.last s :=
  last_put r c.1 s _

theorem le_last_foldl_raise (cs : List (Series × Int)) (r : Register) (s : Series) :
    r.last s ≤ (cs.foldl raise r).last s := by
  induction cs generalizing r with
  | nil => exact Int.le_refl _
  | cons c cs ih =>
      refine Int.le_trans ?_ (ih (r.raise c))
      rw [last_raise]
      split
      · rename_i same
        rw [same]
        exact Int.le_max_right _ _
      · exact Int.le_refl _

theorem le_last_foldl_raise_of_mem {cs : List (Series × Int)} {c : Series × Int} (h : c ∈ cs)
    (r : Register) : c.2 ≤ (cs.foldl raise r).last c.1 := by
  induction cs generalizing r with
  | nil => exact absurd h List.not_mem_nil
  | cons d cs ih =>
      rcases List.mem_cons.1 h with rfl | later
      · refine Int.le_trans ?_ (le_last_foldl_raise cs (r.raise c) c.1)
        rw [last_raise, if_pos rfl]
        exact Int.le_max_left _ _
      · exact ih later (r.raise d)

theorem isSome_foldl_raise {cs : List (Series × Int)} {r : Register} {s : Series}
    (h : s ∈ cs.map Prod.fst ∨ (r.get? s).isSome) : ((cs.foldl raise r).get? s).isSome := by
  induction cs generalizing r with
  | nil => exact h.resolve_left List.not_mem_nil
  | cons c cs ih =>
      apply ih
      rw [raise, get?_put]
      by_cases same : s = c.1
      · rw [if_pos same]
        exact .inr rfl
      · rw [if_neg same]
        exact h.imp_left fun held => (List.mem_cons.1 held).resolve_left same

/-- A counter that is read is one of those that stand there. -/
theorem mem_of_get?_foldl_raise {cs : List (Series × Int)} {r : Register} {s : Series} {n : Int}
    (nonneg : ∀ c ∈ cs, 0 ≤ c.2) (found : (cs.foldl raise r).get? s = some n) :
    (s, n) ∈ cs ∨ r.get? s = some n := by
  induction cs generalizing r with
  | nil => exact .inr found
  | cons c cs ih =>
      rw [List.forall_mem_cons] at nonneg
      rcases ih nonneg.2 found with later | here
      · exact .inl (List.mem_cons_of_mem c later)
      · rw [raise, get?_put] at here
        by_cases same : s = c.1
        · subst same
          rw [if_pos rfl, Option.some.injEq, last] at here
          cases before : r.get? c.1 with
          | none =>
              have value : c.2 = n := by rw [before] at here; exact max_eq_left nonneg.1 ▸ here
              exact .inl (value ▸ List.mem_cons_self)
          | some m =>
              rw [before, Option.getD_some] at here
              rcases max_choice c.2 m with larger | smaller
              · exact .inl ((larger ▸ here : c.2 = n) ▸ List.mem_cons_self)
              · exact .inr (congrArg some (smaller ▸ here))
        · rw [if_neg same] at here
          exact .inr here

/-- Of several counters of a series the largest is read. -/
theorem get?_foldl_raise_iff {cs : List (Series × Int)} (nonneg : ∀ c ∈ cs, 0 ≤ c.2) (s : Series)
    (n : Int) :
    (cs.foldl raise empty).get? s = some n ↔ (s, n) ∈ cs ∧ ∀ c ∈ cs, c.1 = s → c.2 ≤ n := by
  have bound {m : Int} (found : (cs.foldl raise empty).get? s = some m) :
      ∀ c ∈ cs, c.1 = s → c.2 ≤ m := by
    rintro c hc rfl
    have large := le_last_foldl_raise_of_mem hc empty
    rwa [last, found] at large
  have member {m : Int} (found : (cs.foldl raise empty).get? s = some m) : (s, m) ∈ cs :=
    (mem_of_get?_foldl_raise nonneg found).resolve_right (by simp)
  constructor
  · intro found
    exact ⟨member found, bound found⟩
  · rintro ⟨inside, largest⟩
    have some : ((cs.foldl raise empty).get? s).isSome :=
      isSome_foldl_raise (.inl (List.mem_map_of_mem (f := Prod.fst) inside))
    obtain ⟨m, found⟩ := Option.isSome_iff_exists.1 some
    have same : m = n :=
      Int.le_antisymm (largest (s, m) (member found) rfl) (bound found (s, n) inside rfl)
    rw [found, same]

/-- No counter of a series with a whole name is lowered by writing and reading. -/
theorem last_le_last_reread {r : Register} (h : r.Sound) {s : Series}
    (whole : Text.Whole s.entity) : r.last s ≤ r.reread.last s := by
  cases found : r.get? s with
  | none =>
      have zero : r.last s = 0 := by simp [last, found]
      rw [zero]
      exact (sound_reread h).last_nonneg s
  | some n =>
      have value : r.last s = n := by simp [last, found]
      have row : (s, n) ∈ r.rows := (rows_perm r).mem_iff.2 (Keyed.mem_of_lookup found)
      have back : (s, n) ∈ r.rows.map rereadRow :=
        List.mem_map.2 ⟨(s, n), row, by rw [rereadRow, rejoin_eq_self whole]⟩
      rw [value]
      exact le_last_foldl_raise_of_mem back empty

theorem last_foldl_raise_le {cs : List (Series × Int)} {r : Register} {s : Series} {n : Int}
    (bound : ∀ c ∈ cs, c.1 = s → c.2 ≤ n) (start : r.last s ≤ n) :
    (cs.foldl raise r).last s ≤ n := by
  induction cs generalizing r with
  | nil => exact start
  | cons c cs ih =>
      rw [List.forall_mem_cons] at bound
      apply ih bound.2
      rw [last_raise]
      split
      · rename_i same
        exact Int.max_le.2 ⟨bound.1 same.symm, same ▸ start⟩
      · exact start

theorem last_eq_of_mem_rows {r : Register} (h : r.Sound) {c : Series × Int} (hc : c ∈ r.rows) :
    r.last c.1 = c.2 := by
  rw [last, h.get?_of_mem ((rows_perm r).mem_iff.1 hc), Option.getD_some]

/-- The last number of a series is read back, if every series that has given out numbers and is read
as this one has a whole name. -/
theorem last_reread_of {r : Register} (h : r.Sound) {s : Series}
    (whole : ∀ u, r.last u ≠ 0 → u = s ∨ rejoin u = s → Text.Whole u.entity) :
    r.reread.last s = r.last s := by
  refine Int.le_antisymm (last_foldl_raise_le ?_ (h.last_nonneg s)) ?_
  · rintro _ back same
    obtain ⟨c, hc, rfl⟩ := List.mem_map.1 back
    have value := last_eq_of_mem_rows h hc
    by_cases zero : c.2 = 0
    · simp only [rereadRow, zero]
      exact h.last_nonneg _
    · have stays := rejoin_eq_self (whole c.1 (value ▸ zero) (.inr same))
      apply Int.le_of_eq
      rw [← same, rereadRow, stays, value]
  · by_cases zero : r.last s = 0
    · rw [zero]
      exact (sound_reread h).last_nonneg s
    · exact last_le_last_reread h (whole s zero (.inl rfl))

/-- If every series that has given out a number has a whole name, its last number is read back. -/
theorem last_reread {r : Register} (h : r.Sound)
    (whole : ∀ s, r.last s ≠ 0 → Text.Whole s.entity) (s : Series) :
    r.reread.last s = r.last s :=
  last_reread_of h fun u used _ => whole u used

/-- A name that is not whole can only come back from a longer one of that kind. -/
theorem longer_of_rejoin {s : Series} (halves : ¬ Text.Whole (rejoin s).entity) :
    ¬ Text.Whole s.entity ∧ (rejoin s).entity.length < s.entity.length := by
  have unwhole : ¬ Text.Whole s.entity := by
    intro whole
    rw [rejoin_eq_self whole] at halves
    exact halves whole
  exact ⟨unwhole, Text.length_rejoined_lt unwhole⟩

/-- A number that is read back of a series was given out by a series that is read as it. -/
theorem exists_of_last_reread {r : Register} (h : r.Sound) {s : Series}
    (back : r.reread.last s ≠ 0) : ∃ u ∈ r.series, rejoin u = s ∧ r.last u ≠ 0 := by
  by_contra none
  have bound : r.reread.last s ≤ 0 := by
    refine last_foldl_raise_le ?_ (Int.le_refl 0)
    intro d hd same
    obtain ⟨c, hc, rfl⟩ := List.mem_map.1 hd
    by_contra positive
    refine none ⟨c.1, List.mem_map.2 ⟨c, (rows_perm r).mem_iff.1 hc, rfl⟩, same, ?_⟩
    rw [last_eq_of_mem_rows h hc]
    intro zero
    exact positive (Int.le_of_eq zero)
  have := (sound_reread h).last_nonneg s
  omega

theorem exists_longer {r : Register} (h : r.Sound) {s : Series} (back : r.reread.last s ≠ 0)
    (halves : ¬ Text.Whole s.entity) :
    ∃ u ∈ r.series, r.last u ≠ 0 ∧ ¬ Text.Whole u.entity ∧ s.entity.length < u.entity.length := by
  obtain ⟨u, listed, rfl, used⟩ := exists_of_last_reread h back
  exact ⟨u, listed, used, longer_of_rejoin halves⟩

/-- What holds of one series of a register and then always of one with a longer name holds of
none. -/
theorem not_of_longer {r : Register} {p : Series → Prop}
    (longer : ∀ u, p u → ∃ v ∈ r.series, p v ∧ u.entity.length < v.entity.length) (s : Series) :
    ¬ p s := by
  classical
  intro held
  let broken := r.series.toFinset.filter p
  have more {u : Series} (held : p u) : ∃ v ∈ broken, u.entity.length < v.entity.length := by
    obtain ⟨v, listed, held, further⟩ := longer u held
    exact ⟨v, Finset.mem_filter.2 ⟨List.mem_toFinset.2 listed, held⟩, further⟩
  obtain ⟨u, member, -⟩ := more held
  obtain ⟨v, member, longest⟩ := broken.exists_max_image (fun v => v.entity.length) ⟨u, member⟩
  obtain ⟨w, member, further⟩ := more (Finset.mem_filter.1 member).2
  exact absurd (longest w member) (Nat.not_le.2 further)

/-- Every last number is read back exactly if the series that have given out numbers have whole
names. -/
theorem last_reread_iff {r : Register} (h : r.Sound) :
    (∀ s, r.reread.last s = r.last s) ↔ ∀ s, r.last s ≠ 0 → Text.Whole s.entity := by
  constructor
  · intro same s held
    by_contra halves
    refine not_of_longer (r := r) (p := fun u => r.last u ≠ 0 ∧ ¬ Text.Whole u.entity) ?_ s
      ⟨held, halves⟩
    rintro u ⟨held, halves⟩
    obtain ⟨v, listed, held, halves, further⟩ := exists_longer h ((same u).trans_ne held) halves
    exact ⟨v, listed, ⟨held, halves⟩, further⟩
  · intro whole s
    exact last_reread h whole s

/-- A register whose names are whole is read back counter by counter. -/
theorem get?_reread {r : Register} (h : r.Sound) (whole : ∀ s ∈ r.series, Text.Whole s.entity)
    (s : Series) : r.reread.get? s = r.get? s := by
  have rows : r.rows.map rereadRow = r.rows := by
    rw [List.map_congr_left (g := id) fun c hc => ?_, List.map_id]
    have held : c.1 ∈ r.series := List.mem_map.2 ⟨c, (rows_perm r).mem_iff.1 hc, rfl⟩
    rw [rereadRow, rejoin_eq_self (whole c.1 held)]
    rfl
  have value {c : Series × Int} (hc : c ∈ r.rows) : r.get? c.1 = some c.2 :=
    h.get?_of_mem ((rows_perm r).mem_iff.1 hc)
  apply Option.ext
  intro n
  rw [reread, rows,
    get?_foldl_raise_iff fun c hc => h.nonneg c ((rows_perm r).mem_iff.1 hc)]
  constructor
  · rintro ⟨row, -⟩
    exact value row
  · intro found
    refine ⟨(rows_perm r).mem_iff.2 (Keyed.mem_of_lookup found), ?_⟩
    rintro c row rfl
    exact Int.le_of_eq (Option.some.inj ((value row).symm.trans found))

/-- Every counter is read back exactly if all names are whole. -/
theorem get?_reread_iff {r : Register} (h : r.Sound) :
    (∀ s, r.reread.get? s = r.get? s) ↔ ∀ s ∈ r.series, Text.Whole s.entity := by
  constructor
  · intro same s listed
    by_contra halves
    refine not_of_longer (r := r) (p := fun u => u ∈ r.series ∧ ¬ Text.Whole u.entity) ?_ s
      ⟨listed, halves⟩
    rintro u ⟨listed, halves⟩
    obtain ⟨⟨u, n⟩, held, rfl⟩ := List.mem_map.1 listed
    have found : r.reread.get? u = some n := (same u).trans (h.get?_of_mem held)
    have nonneg : ∀ c ∈ r.rows.map rereadRow, 0 ≤ c.2 := by
      rw [List.forall_mem_map]
      exact fun c hc => h.nonneg c ((rows_perm r).mem_iff.1 hc)
    obtain ⟨c, hc, row⟩ := List.mem_map.1 ((get?_foldl_raise_iff nonneg u n).1 found).1
    obtain ⟨rfl, -⟩ := Prod.mk.inj row
    obtain ⟨unwhole, further⟩ := longer_of_rejoin halves
    have listed : c.1 ∈ r.series := List.mem_map.2 ⟨c, (rows_perm r).mem_iff.1 hc, rfl⟩
    exact ⟨c.1, listed, ⟨listed, unwhole⟩, further⟩
  · exact get?_reread h

end Register

end MinuteBook
