import MinuteBook.Proofs.Store.Segments

/-!
# What is read at a path

Writing a key changes what is read at the paths whose first segment is the key: there the other
segments lead into the new value. What is read at any other path stays as it is, its error included;
so a key with a dot in it is read by no path (`Store.get_after_set`).

A path behind another path reads, in what is found at that one, what it would read in a store of
these answers (`Store.outcome_join`).
-/

namespace MinuteBook.Store

/-! ## After a write -/

theorem set_unread {key : String} (dotted : '.' ∈ key.toList) (s : Store) (v : Value)
    (path : String) : (s.set key v).get path = s.get path := by
  rw [get_set, if_neg]
  rintro ⟨rfl, -⟩
  exact Path.dot_not_mem_of_mem_segments (Path.front_mem_segments path) dotted

/-- Joined by dots, the segments of a path are the path without the blanks at its ends, and there
are no dots in them. After a write to the key that is the first of them the others lead into the new
value or are lost there, unless the key is empty or `$template`. At all other paths the same is read
as before, so a write to a key with a dot in it changes nothing that is read. -/
theorem get_after_set (s : Store) (key : String) (v : Value) (path : String) :
    let first := Path.front path
    let rest := (Path.segments path).tail
    (".".intercalate (first :: rest) = Text.stripped path ∧
      ∀ segment ∈ first :: rest, '.' ∉ segment.toList) ∧
    (first = key ∧ key ≠ "" ∧ key ≠ templateKey →
      (∀ w, (s.set key v).get path = .ok w ↔ Leads v rest w) ∧
      ∀ e, (s.set key v).get path = .error e ↔ Lost path v rest e) ∧
    (¬ (first = key ∧ key ≠ "" ∧ key ≠ templateKey) →
      (s.set key v).get path = s.get path) ∧
    ('.' ∈ key.toList → (s.set key v).get path = s.get path) := by
  intro first rest
  have parts : first :: rest = Path.segments path := (Path.segments_eq path).symm
  refine ⟨⟨?_, ?_⟩, fun written => ?_, fun other => ?_, fun dotted => set_unread dotted s v path⟩
  · rw [parts, Path.intercalate_segments]
  · rw [parts]
    exact fun segment => Path.dot_not_mem_of_mem_segments
  · have within : (s.set key v).get path = walk path rest v := by rw [get_set, if_pos written]
    rw [within]
    exact ⟨fun w => walk_eq_ok_iff, fun e => walk_eq_error_iff⟩
  · rw [get_set, if_neg other]

/-- For instance, what stands under the key `a.b` is not what is read at the path `a.b`. -/
theorem get_after_dotted_set :
    let s : Store := ⟨[("a", .mapping [("b", .int 2)])], []⟩
    (s.set "a.b" (.int 5)).get " a.b " = .ok (.int 2) ∧
      (s.set "a" (.mapping [("c", .int 3)])).get "a.c" = .ok (.int 3) ∧
      (s.set "a" (.mapping [("c", .int 3)])).get "a.b.c" = .error (.unset "a.b.c") ∧
      (s.set "a" (.mapping [("c", .int 3)])).get "a.c.d" = .error (.notMapping "d" "a.c.d") := by
  intro s
  have written : "a" ≠ "" ∧ "a" ≠ templateKey := by decide
  have inner {path : String} {rest : List String} (parts : Path.segments path = "a" :: rest) :
      (∀ w, (s.set "a" (.mapping [("c", .int 3)])).get path = .ok w ↔
        Leads (.mapping [("c", .int 3)]) rest w) ∧
      ∀ e, (s.set "a" (.mapping [("c", .int 3)])).get path = .error e ↔
        Lost path (.mapping [("c", .int 3)]) rest e := by
    have front : Path.front path = "a" := by rw [Path.front, parts]; rfl
    have read := (get_after_set s "a" (.mapping [("c", .int 3)]) path).2.1 ⟨front, written⟩
    rwa [parts] at read
  have read : Record.get? [("c", .int 3)] "c" = some (.int 3) := by decide
  refine ⟨?_, ?_, ?_, ?_⟩
  · rw [(get_after_set s "a.b" (.int 5) " a.b ").2.2.2 (by decide)]
    decide +kernel
  · have parts : Path.segments "a.c" = ["a", "c"] := by decide +kernel
    exact ((inner parts).1 _).2 (.entry read (.here _))
  · have parts : Path.segments "a.b.c" = ["a", "b", "c"] := by decide +kernel
    exact ((inner parts).2 _).2 (Lost.unset (.here _) (by decide))
  · have parts : Path.segments "a.c.d" = ["a", "c", "d"] := by decide +kernel
    exact ((inner parts).2 _).2 (Lost.notMapping (.entry read (.here _)) rfl)

/-! ## One path behind another -/

namespace Error

/-- The two sorts of errors. -/
inductive Kind where
  /-- Nothing is there. -/
  | missing
  /-- Something is there that is no mapping. -/
  | mismatch
  deriving DecidableEq

def kind : Error → Kind
  | .emptyPath => .missing
  | .unset _ => .missing
  | .notMapping _ _ => .mismatch

@[simp] theorem kind_about (path : String) (e : Error) : (e.about path).kind = e.kind := by
  cases e <;> rfl

end Error

/-- The value at a path, or the sort of error. -/
def outcome (s : Store) (path : String) : Except Error.Kind Value :=
  (s.get path).mapError Error.kind

variable {path path' : String}

theorem get_intoAnswers (h : Path.IntoAnswers path) (s : Store) :
    s.get path = walk path (Path.segments path) (.mapping s.values) := by
  rw [get_eq, if_neg h.filled, if_neg h.answer, Path.segments_eq path, walk_mapping]
  rfl

theorem kind_walk (path path' : String) (segments : List String) (v : Value) :
    (walk path segments v).mapError Error.kind = (walk path' segments v).mapError Error.kind := by
  rw [walk_about path path']
  cases walk path' segments v with
  | error e => exact congrArg Except.error (Error.kind_about path e)
  | ok w => rfl

/-- The second path goes on from where the first one has led. -/
theorem get_join (h : Path.IntoAnswers path) (h' : Path.IntoAnswers path') (s : Store) :
    s.get (Path.join path path') =
      (s.get path).mapError (Error.about (Path.join path path')) >>=
        walk (Path.join path path') (Path.segments path') := by
  rw [get_intoAnswers (h.join h'), get_intoAnswers h, Path.segments_join h h', walk_append,
    walk_about (Path.join path path') path]

/-- What a path behind another path reads is what it reads in the mapping that is found at the other
one. If something else is found there, it is no mapping; if nothing is, the error is of the same
sort. -/
theorem outcome_join (h : Path.IntoAnswers path) (h' : Path.IntoAnswers path') (s : Store) :
    s.outcome (Path.join path path') =
      match s.outcome path with
      | .ok (.mapping es) => outcome ⟨es, []⟩ path'
      | .ok _ => .error .mismatch
      | .error kind => .error kind := by
  rw [outcome, get_join h h', outcome]
  cases s.get path with
  | error e => exact congrArg Except.error (Error.kind_about _ e)
  | ok v =>
      cases v with
      | mapping es =>
          change (walk _ (Path.segments path') (.mapping es)).mapError Error.kind =
            outcome ⟨es, []⟩ path'
          rw [outcome, get_intoAnswers h']
          exact kind_walk _ _ _ _
      | _ =>
          rw [Path.segments_eq path']
          rfl

/-- For instance, in the address of an entity there is a city, but nothing in the city, and there is
no city in an address that is not given. -/
theorem outcome_of_city :
    let s : Store :=
      ⟨[("entity", .mapping [("address", .mapping [("city", .text "Sheridan")])])], []⟩
    (Path.IntoAnswers "entity.address" ∧ Path.IntoAnswers "entity.address.city" ∧
      Path.IntoAnswers "entity.office" ∧ Path.IntoAnswers "city") ∧
      s.outcome "entity.address.city" = .ok (.text "Sheridan") ∧
      s.outcome "entity.address.city.city" = .error .mismatch ∧
      s.outcome "entity.office.city" = .error .missing := by
  intro s
  have address : Path.IntoAnswers "entity.address" :=
    Path.intoAnswers_of_word (by decide) (by decide +kernel)
  have within : Path.IntoAnswers "entity.address.city" :=
    Path.intoAnswers_of_word (by decide) (by decide +kernel)
  have office : Path.IntoAnswers "entity.office" :=
    Path.intoAnswers_of_word (by decide) (by decide +kernel)
  have city : Path.IntoAnswers "city" := Path.intoAnswers_of_word (by decide) (by decide +kernel)
  refine ⟨⟨address, within, office, city⟩, ?_, ?_, ?_⟩
  · have found : s.outcome "entity.address" = .ok (.mapping [("city", .text "Sheridan")]) := by
      decide +kernel
    have behind : outcome ⟨[("city", .text "Sheridan")], []⟩ "city" = .ok (.text "Sheridan") := by
      decide +kernel
    have joined := outcome_join address city s
    rw [found] at joined
    exact joined.trans behind
  · have found : s.outcome "entity.address.city" = .ok (.text "Sheridan") := by decide +kernel
    have joined := outcome_join within city s
    rw [found] at joined
    exact joined
  · have found : s.outcome "entity.office" = .error .missing := by decide +kernel
    have joined := outcome_join office city s
    rw [found] at joined
    exact joined

end MinuteBook.Store
