import MinuteBook.Proofs.Markup.Seams

/-!
# The one way to cut a template

A template can be cut into tags, with a text before each of them and one behind the last, in such a
way that no tag could have ended earlier, that no tag could have begun earlier, and that there is no
tag in the last text (`Cut.Clear`). There is one such cut of every template, and its texts and tags
are the segments by which the template is read (`cut_unique`).
-/

namespace MinuteBook.Markup

variable {c : Char} {s before body after : List Char}

/-! ## Where no tag is found -/

theorem NoPair.suffix (h : NoPair c s) (ends : after <:+ s) : NoPair c after :=
  fun inside => h (inside.trans ends.isInfix)

/-- Where there is a pair a first one is found, and what stands behind any pair stands behind the
first. -/
theorem exists_cutAtPair (c : Char) (before after : List Char) :
    ∃ first rest, cutAtPair c (before ++ c :: c :: after) = some (first, rest) ∧
      after <:+ rest := by
  induction before with
  | nil => exact ⟨[], after, by simp [cutAtPair], List.suffix_rfl⟩
  | cons a before ih =>
      obtain ⟨first, rest, cut, ends⟩ := ih
      obtain ⟨b, r, split⟩ : ∃ b r, before ++ c :: c :: after = b :: r :=
        List.exists_cons_of_ne_nil (by simp)
      rw [split] at cut
      rw [List.cons_append, split, cutAtPair]
      by_cases pair : a = c ∧ b = c
      · rw [if_pos pair]
        refine ⟨[], r, rfl, ?_⟩
        -- The pair at the front takes at most the first half of the other one.
        cases before with
        | nil =>
            obtain rfl := (List.cons.inj split).2
            exact List.suffix_cons c after
        | cons d before =>
            obtain rfl := (List.cons.inj split).2
            exact List.suffix_append_of_suffix (List.suffix_append [c, c] after)
      · rw [if_neg pair, cut]
        exact ⟨a :: first, rest, rfl, ends⟩

theorem cutAtPair_eq_none_iff : cutAtPair c s = none ↔ NoPair c s := by
  refine ⟨fun none inside => ?_, cutAtPair_eq_none⟩
  obtain ⟨before, after, rfl⟩ := inside
  obtain ⟨first, rest, cut, -⟩ := exists_cutAtPair c before after
  rw [List.append_assoc] at none
  exact absurd (cut.symm.trans none) (by simp)

/-- There is no tag in a text: behind no pair of opening braces a pair of closing braces follows. -/
def Untagged (s : List Char) : Prop :=
  ∀ before after, s = before ++ '\x7b' :: '\x7b' :: after → NoPair '\x7d' after

theorem firstTag?_eq_none_iff : firstTag? s = none ↔ Untagged s := by
  constructor
  · rintro none before after rfl
    obtain ⟨first, rest, cut, ends⟩ := exists_cutAtPair '\x7b' before after
    rw [firstTag?, cut] at none
    cases closing : cutAtPair '\x7d' rest with
    | none => exact (cutAtPair_eq_none_iff.1 closing).suffix ends
    | some p => simp [closing] at none
  · intro untagged
    cases found : firstTag? s with
    | none => rfl
    | some p =>
        obtain ⟨before, body, after⟩ := p
        have closing := untagged before _ (eq_append_of_firstTag? found)
        exact absurd ⟨body, after, by simp⟩ closing

/-! ## Cuts -/

/-- A template cut into tags, given by the text before each and by its body, and the text behind the
last one. -/
structure Cut where
  tagged : List (List Char × List Char)
  rest : List Char

namespace Cut

/-- What the parts of a cut make up, one after another. -/
def source (c : Cut) : List Char :=
  c.tagged.flatMap (fun t => t.1 ++ '\x7b' :: '\x7b' :: (t.2 ++ ['\x7d', '\x7d'])) ++ c.rest

/-- The texts, but for empty ones, and the tags. -/
def segments (c : Cut) : List Segment :=
  c.tagged.flatMap (fun t => textSegments t.1 ++ [.tag t.2]) ++ textSegments c.rest

/-- Each tag ends at the first pair of closing braces and begins at the first pair of opening braces
behind which there is one, and the last text has no tag in it. -/
structure Clear (c : Cut) : Prop where
  body : ∀ t ∈ c.tagged, Sealed '\x7d' t.2
  before : ∀ t ∈ c.tagged, Sealed '\x7b' t.1
  rest : Untagged c.rest

/-- A cut with one more tag in front. -/
def cons (before body : List Char) (c : Cut) : Cut := ⟨(before, body) :: c.tagged, c.rest⟩

theorem source_cons (before body : List Char) (c : Cut) :
    (c.cons before body).source =
      before ++ '\x7b' :: '\x7b' :: (body ++ '\x7d' :: '\x7d' :: c.source) := by
  simp [source, cons]

theorem segments_cons (before body : List Char) (c : Cut) :
    (c.cons before body).segments = textSegments before ++ .tag body :: c.segments := by
  simp [segments, cons]

theorem clear_cons_iff {c : Cut} :
    (c.cons before body).Clear ↔ Sealed '\x7b' before ∧ Sealed '\x7d' body ∧ c.Clear := by
  constructor
  · rintro ⟨bodies, texts, rest⟩
    obtain ⟨first, bodies⟩ := List.forall_mem_cons.1 bodies
    obtain ⟨first', texts⟩ := List.forall_mem_cons.1 texts
    exact ⟨first', first, bodies, texts, rest⟩
  · rintro ⟨first', first, bodies, texts, rest⟩
    exact ⟨List.forall_mem_cons.2 ⟨first, bodies⟩, List.forall_mem_cons.2 ⟨first', texts⟩, rest⟩

theorem eq_cons_or (c : Cut) : c = ⟨[], c.rest⟩ ∨ ∃ before body d, c = cons before body d := by
  obtain ⟨tagged, rest⟩ := c
  cases tagged with
  | nil => exact .inl rfl
  | cons t tagged => exact .inr ⟨t.1, t.2, ⟨tagged, rest⟩, rfl⟩

/-- The first tag of a clear cut is the first tag of what it makes up. -/
theorem Clear.firstTag?_source {c : Cut} (h : (c.cons before body).Clear) :
    firstTag? (c.cons before body).source = some (before, body, c.source) := by
  obtain ⟨text, tag, -⟩ := clear_cons_iff.1 h
  rw [source_cons, firstTag?_append text.1 text.2 tag.1 tag.2]

/-- A text without a tag is left in one piece. -/
theorem iff_of_none (none : firstTag? s = none) (c : Cut) :
    c.Clear ∧ c.source = s ↔ c = ⟨[], s⟩ := by
  constructor
  · rintro ⟨clear, rfl⟩
    rcases c.eq_cons_or with last | ⟨before, body, d, rfl⟩
    · rw [last]
      rfl
    · exact absurd (clear.firstTag?_source.symm.trans none) (by simp)
  · rintro rfl
    exact ⟨⟨List.forall_mem_nil _, List.forall_mem_nil _, firstTag?_eq_none_iff.1 none⟩, rfl⟩

/-- Otherwise the first tag is cut out, and what is behind it is cut in turn. -/
theorem iff_of_some (found : firstTag? s = some (before, body, after)) (c : Cut) :
    c.Clear ∧ c.source = s ↔ ∃ d, (d.Clear ∧ d.source = after) ∧ c = cons before body d := by
  constructor
  · rintro ⟨clear, rfl⟩
    rcases c.eq_cons_or with last | ⟨before', body', d, rfl⟩
    · have untagged : firstTag? c.source = none := by
        rw [last]
        exact firstTag?_eq_none_iff.2 clear.rest
      exact absurd (found.symm.trans untagged) (by simp)
    · have first := Option.some.inj (clear.firstTag?_source.symm.trans found)
      simp only [Prod.mk.injEq] at first
      obtain ⟨rfl, rfl, behind⟩ := first
      exact ⟨d, ⟨(clear_cons_iff.1 clear).2.2, behind⟩, rfl⟩
  · rintro ⟨d, ⟨clear, rfl⟩, rfl⟩
    obtain ⟨text, tag⟩ := sealed_of_firstTag? found
    refine ⟨clear_cons_iff.2 ⟨text, tag, clear⟩, ?_⟩
    rw [source_cons, eq_append_of_firstTag? found]

theorem exists_only (s : List Char) :
    ∃ c : Cut, c.segments = Markup.segments s ∧ ∀ d : Cut, d.Clear ∧ d.source = s ↔ d = c := by
  induction s using Markup.segments.induct with
  | case1 s none =>
      refine ⟨⟨[], s⟩, ?_, iff_of_none none⟩
      rw [segments_of_none none]
      rfl
  | case2 s before body after found ih =>
      obtain ⟨c, same, only⟩ := ih
      refine ⟨c.cons before body, ?_, fun d => ?_⟩
      · rw [segments_cons, same, segments_of_some found]
      · rw [iff_of_some found]
        constructor
        · rintro ⟨d, behind, rfl⟩
          rw [(only d).1 behind]
        · rintro rfl
          exact ⟨c, (only c).2 rfl, rfl⟩

end Cut

/-- The segments of a template are the texts and tags of a clear cut of it, and there is no other
one. -/
theorem cut_unique (template : String) :
    ∃ c : Cut, (c.Clear ∧ c.source = template.toList ∧ c.segments = segments template.toList) ∧
      ∀ d : Cut, d.Clear → d.source = template.toList → d = c := by
  obtain ⟨c, same, only⟩ := Cut.exists_only template.toList
  obtain ⟨clear, whole⟩ := (only c).2 rfl
  exact ⟨c, ⟨clear, whole, same⟩, fun d clear whole => (only d).1 ⟨clear, whole⟩⟩

end MinuteBook.Markup
