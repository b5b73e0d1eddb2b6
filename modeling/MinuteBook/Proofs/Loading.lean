import MinuteBook.Proofs.Memo
import MinuteBook.Proofs.Register.Canonical
import MinuteBook.Proofs.Register.Entries

/-!
# What a register file gives back

A register that is saved is loaded again, with the same counters exactly if the names of its
entities are whole; what is written depends on the counters alone (`saved_and_loaded`). Loading a
file of any content, or none, gives a register, with one exception: an infinite number where a whole
one is read is a fault (`load_outcome`).
-/

namespace MinuteBook.Numbering

open Register (Change Spells Infinite)

variable {d : Disk} {file : Location} {cs : List (Series × Int)}

/-! ## Saving and loading -/

/-- Short numbers are saved on an empty disk. -/
theorem save_on_empty {r : Register} (short : ∀ c ∈ r.counters, Register.Short c) :
    ∃ d, (⟨r, some Memo.file⟩ : Numbering).save System.willing none .empty = (d, .ok ()) := by
  obtain ⟨text, written⟩ := Register.exists_text short
  refine ⟨⟨[(Memo.file, .file text.toUTF8)]⟩, ?_⟩
  rw [save]
  simp only [Option.none_or, written, Memo.writeFile_eq (.inl rfl) text]
  rfl

/-- A register without negative counters that is saved is loaded again; it agrees with the one that
was saved exactly if the names of its entities are whole. Registers with the same counters have the
same text, whatever was done to them to get there. -/
theorem saved_and_loaded (n : Numbering) (once : n.register.series.Nodup) :
    ((∀ c ∈ n.register.counters, 0 ≤ c.2) → ∀ sys other file d d',
      other.or n.file = some file → n.save sys other d = (d', .ok ()) →
      ∃ text r, n.register.text = .ok text ∧ d'.read file = .ok text.toUTF8 ∧
        load d' file = .ok r ∧
        (r.agrees n.register = true ↔ ∀ s ∈ n.register.series, Text.Whole s.entity)) ∧
    ∀ (q : Register) (cs ds : List Change),
      (cs.foldl Register.change n.register).agrees (ds.foldl Register.change q) = true →
      (cs.foldl Register.change n.register).text = (ds.foldl Register.change q).text := by
  constructor
  · intro nonneg sys other file d d' place saved
    have sound : n.register.Sound := ⟨once, nonneg⟩
    obtain ⟨text, written, held⟩ := read_of_save place saved
    refine ⟨text, n.register.reread, written, held, load_text sound written held, ?_⟩
    rw [Register.agrees_iff (Register.sound_reread sound).distinct once]
    exact Register.get?_reread_iff sound
  · intro q cs ds same
    exact Register.text_eq_of_agrees (Register.distinct_changes once cs) same

/-- For instance, a counter under a name with a quote and a line break comes back, and so does one
that stands at zero; the counter of two halves of a pair that are not one character does not. -/
theorem zero_loaded_but_not_halves :
    let kept : Register := ⟨[(⟨"E", 2025⟩, 3), (⟨"\"A\"\n", 2024⟩, 0)]⟩
    let halves := String.ofList [Text.ofCodePoint 0xd83d, Text.ofCodePoint 0xde00]
    let broken : Register := ⟨[(⟨halves, 2025⟩, 1)]⟩
    (∃ d r, (⟨kept, some Memo.file⟩ : Numbering).save System.willing none .empty = (d, .ok ()) ∧
      load d Memo.file = .ok r ∧ r.agrees kept = true) ∧
    (∃ d r, (⟨broken, some Memo.file⟩ : Numbering).save System.willing none .empty = (d, .ok ()) ∧
      load d Memo.file = .ok r ∧ r.agrees broken = false) ∧
    ([.bump ⟨"E", 2025⟩, .bump ⟨"A", 2024⟩].foldl Register.change .empty).text =
      ([.bump ⟨"A", 2024⟩, .bump ⟨"E", 2025⟩].foldl Register.change .empty).text := by
  intro kept halves broken
  refine ⟨?_, ?_, ?_⟩
  · have short : ∀ c ∈ kept.counters, Register.Short c := by
      refine List.forall_mem_cons.2 ⟨Register.short_of_lt (by decide) (by decide), ?_⟩
      exact List.forall_mem_singleton.2 (Register.short_of_lt (by decide) (by decide))
    obtain ⟨d, saved⟩ := save_on_empty short
    obtain ⟨-, r, -, -, loaded, same⟩ :=
      (saved_and_loaded ⟨kept, some Memo.file⟩ (by decide)).1 (by decide) _ none _ _ d rfl saved
    exact ⟨d, r, saved, loaded, same.2 (by decide)⟩
  · have short : ∀ c ∈ broken.counters, Register.Short c :=
      List.forall_mem_singleton.2 (Register.short_of_lt (by decide) (by decide))
    obtain ⟨d, saved⟩ := save_on_empty short
    obtain ⟨-, r, -, -, loaded, same⟩ :=
      (saved_and_loaded ⟨broken, some Memo.file⟩ (List.nodup_singleton _)).1 (by simp [broken])
        _ none _ _ d rfl saved
    refine ⟨d, r, saved, loaded, Bool.eq_false_iff.2 fun agrees => ?_⟩
    have whole : Text.Whole halves := same.1 agrees ⟨halves, 2025⟩ List.mem_cons_self
    revert whole
    rw [Text.Whole, String.toList_ofList]
    decide
  · exact (saved_and_loaded ⟨.empty, none⟩ List.nodup_nil).2 .empty _ _ (by decide)

/-! ## Loading any file -/

/-- The list of counters in a file, if the file holds JSON for a mapping with such a list. -/
def entries? (d : Disk) (file : Location) : Option (List Value) := do
  let content ← (d.read file).toOption
  Register.listed? (← (Disk.decode content).bind Json.read)

/-- The file lists the given counters, each of them spelled by an entry. -/
def Lists (d : Disk) (file : Location) (cs : List (Series × Int)) : Prop :=
  ∃ entries, entries? d file = some entries ∧ List.Forall₂ Spells entries cs

/-- The file lists some counters and then, where the next should stand, an entry with an infinite
number. -/
def Overflows (d : Disk) (file : Location) : Prop :=
  ∃ before v after, entries? d file = some (before ++ v :: after) ∧
    (∀ w ∈ before, ∃ c, Spells w c) ∧ Infinite v

/-- What comes of reading the entries one after another. -/
def counters? (d : Disk) (file : Location) :
    Option (Except Register.Error (List (Series × Int))) :=
  (entries? d file).map fun entries => entries.mapM Register.counterOf

theorem lists_iff : Lists d file cs ↔ counters? d file = some (.ok cs) := by
  simp only [Lists, counters?, Option.map_eq_some_iff, Register.mapM_counterOf_eq_ok_iff]

theorem overflows_iff :
    Overflows d file ↔ counters? d file = some (.error (.fault .infinite)) := by
  rw [counters?, Option.map_eq_some_iff]
  simp only [Register.mapM_counterOf_infinite_iff]
  constructor
  · rintro ⟨before, v, after, found, spelled, infinite⟩
    exact ⟨_, found, before, v, after, rfl, spelled, infinite⟩
  · rintro ⟨_, found, before, v, after, rfl, spelled, infinite⟩
    exact ⟨before, v, after, found, spelled, infinite⟩

theorem load_eq (d : Disk) (file : Location) :
    load d file = match counters? d file with
      | some (.ok cs) => .ok (cs.foldl Register.raise .empty)
      | some (.error (.fault .infinite)) => .error .infinite
      | _ => .ok .empty := by
  unfold load counters? entries?
  cases d.read file with
  | error e => rfl
  | ok content =>
      simp only [Except.toOption, Option.bind_eq_bind, Option.bind_some]
      cases (Disk.decode content).bind Json.read with
      | none => rfl
      | some v =>
          simp only [Option.bind_some, Register.ofValue_eq]
          cases Register.listed? v with
          | none => rfl
          | some entries =>
              simp only [Option.map_some]
              cases entries.mapM Register.counterOf with
              | ok cs => rfl
              | error e =>
                  cases e with
                  | fault f => cases f <;> rfl
                  | _ => rfl

theorem nonneg_of_lists (h : Lists d file cs) : ∀ c ∈ cs, 0 ≤ c.2 := by
  obtain ⟨entries, -, spelled⟩ := h
  intro c inside
  obtain ⟨v, -, spells⟩ :=
    exists_of_mem_mapM (Register.mapM_counterOf_eq_ok_iff.2 spelled) inside
  exact (Register.counterOf_eq_ok_iff.1 spells).nonneg

/-- A disk on which the file of memos holds a text. -/
def holding (text : String) : Disk := ⟨[(Memo.file, .file text.toUTF8)]⟩

theorem entries?_holding {text : String} {v : Value} (lines : '\r' ∉ text.toList)
    (read : Json.read text = some v) : entries? (holding text) Memo.file = Register.listed? v := by
  have held : (holding text).read Memo.file = .ok text.toUTF8 := rfl
  rw [entries?, held]
  simp only [Except.toOption, Option.bind_eq_bind, Option.bind_some, decode_toUTF8 lines, read]

/-- Loading reads the largest counter of each series that the file lists; it fails exactly on an
infinite number that it meets behind nothing but counters, and a file that neither lists counters
nor overflows counts as an empty register. So, but for that number, there is a numbering to go on
with. -/
theorem load_outcome (d : Disk) (file : Location) :
    (∀ cs, Lists d file cs → ∃ r, load d file = .ok r ∧ r.Sound ∧
      ∀ s k, r.get? s = some k ↔ (s, k) ∈ cs ∧ ∀ c ∈ cs, c.1 = s → c.2 ≤ k) ∧
    (∀ f, load d file = .error f ↔ f = .infinite ∧ Overflows d file) ∧
    ((∀ cs, ¬ Lists d file cs) → ¬ Overflows d file → load d file = .ok .empty) ∧
    (¬ Overflows d file → ∃ r, load d file = .ok r ∧ r.Sound ∧
      ofFile d file = .ok ⟨r, some file⟩) := by
  have fails (f : Fault) : load d file = .error f ↔ f = .infinite ∧ Overflows d file := by
    rw [load_eq, overflows_iff]
    split
    · rename_i found
      simp [found]
    · rename_i found
      simp [found, eq_comm]
    · rename_i finite
      exact iff_of_false (by simp) fun h => finite h.2
  refine ⟨?_, fails, ?_, ?_⟩
  · intro cs lists
    have read : load d file = .ok (cs.foldl Register.raise .empty) := by
      rw [load_eq, lists_iff.1 lists]
    exact ⟨_, read, sound_of_load read, Register.get?_foldl_raise_iff (nonneg_of_lists lists)⟩
  · intro none finite
    rw [load_eq]
    split
    · rename_i cs found
      exact absurd (lists_iff.2 found) (none cs)
    · rename_i found
      exact absurd (overflows_iff.2 found) finite
    · rfl
  · intro finite
    cases read : load d file with
    | error f => exact absurd ((fails f).1 read).2 finite
    | ok r => exact ⟨r, rfl, sound_of_load read, bind_eq_ok.2 ⟨r, read, rfl⟩⟩

/-- For instance, a file with a counter, one with a counter beyond all doubles, and one without a
list of counters. -/
theorem counter_loaded_but_not_infinite :
    let text (value : String) := "\x7b\"counters\": [\x7b\"entityId\": \"A\", " ++
      "\"year\": 2025, \"value\": " ++ value ++ "\x7d]\x7d"
    (∃ r, ofFile (holding (text "3")) Memo.file = .ok ⟨r, some Memo.file⟩ ∧
      load (holding (text "3")) Memo.file = .ok r ∧ r.get? ⟨"A", 2025⟩ = some 3) ∧
    load (holding (text "1e999")) Memo.file = .error .infinite ∧
    load (holding "[]") Memo.file = .ok .empty := by
  intro text
  let entry (value : Value) : Value :=
    .mapping [("entityId", .text "A"), ("year", .int 2025), ("value", value)]
  have named (value : Value) : ∃ w, (entry value).require "entityId" = .ok w ∧
      w.display = .ok "A" := ⟨.text "A", rfl, rfl⟩
  have dated (value : Value) : ∃ w, (entry value).require "year" = .ok w ∧
      w.toInt = .ok 2025 := ⟨.int 2025, rfl, rfl⟩
  have three : entries? (holding (text "3")) Memo.file = some [entry (.int 3)] :=
    entries?_holding (v := .mapping [("counters", .list [entry (.int 3)])]) (by decide)
      (by decide +kernel)
  have large : entries? (holding (text "1e999")) Memo.file =
      some [entry (.double (.infinite false))] :=
    entries?_holding (v := .mapping [("counters", .list [entry (.double (.infinite false))])])
      (by decide) (by decide +kernel)
  have bare : entries? (holding "[]") Memo.file = none :=
    entries?_holding (v := .list []) (by decide) (by decide +kernel)
  refine ⟨?_, ?_, ?_⟩
  · have lists : Lists (holding (text "3")) Memo.file [(⟨"A", 2025⟩, 3)] :=
      ⟨_, three, .cons ⟨named _, dated _, ⟨.int 3, rfl, rfl⟩, by decide⟩ .nil⟩
    have finite : ¬ Overflows (holding (text "3")) Memo.file := by
      rw [overflows_iff, lists_iff.1 lists]
      simp
    obtain ⟨counts, -, -, usable⟩ := load_outcome (holding (text "3")) Memo.file
    obtain ⟨r, loaded, -, counters⟩ := counts _ lists
    obtain ⟨q, loaded', -, opened⟩ := usable finite
    obtain rfl : q = r := Except.ok.inj (loaded'.symm.trans loaded)
    exact ⟨q, opened, loaded, (counters _ _).2 ⟨by simp, by simp⟩⟩
  · have overflows : Overflows (holding (text "1e999")) Memo.file :=
      ⟨[], _, [], large, by simp, ⟨_, "A", rfl, rfl⟩, .inr ⟨⟨_, 2025, rfl, rfl⟩, false, rfl⟩⟩
    exact ((load_outcome _ _).2.1 .infinite).2 ⟨rfl, overflows⟩
  · have none (cs : List (Series × Int)) : ¬ Lists (holding "[]") Memo.file cs := by
      rintro ⟨entries, found, -⟩
      exact absurd (bare.symm.trans found) (by simp)
    have finite : ¬ Overflows (holding "[]") Memo.file := by
      rintro ⟨before, v, after, found, -⟩
      exact absurd (bare.symm.trans found) (by simp)
    exact (load_outcome _ _).2.2.1 none finite

end MinuteBook.Numbering
