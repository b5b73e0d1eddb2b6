import MinuteBook.Proofs.Markup.Composition
import MinuteBook.Proofs.Store.Agreement

/-!
# Tags with a filter

A tag may name a path and a filter, with a bar between them. Blanks around the path make no
difference: the tag is that of the expression, and prints what the expression prints, wherever it
stands behind a closed template (`Path.InTag.render_filterTag`).
-/

namespace MinuteBook

/-- A path as it can be written in a tag: a name that opens no block, with blanks around it. -/
structure Path.InTag (path name : String) : Prop where
  blanks : ∃ before after, Token.Gap before ∧ Token.Gap after ∧
    path.toList = before ++ (name.toList ++ after)
  named : IsName name
  opens : name ≠ "#if" ∧ name ≠ "#each"

/-- The tag that prints what is found at a path, through a filter. -/
def filterTag (path filter : String) : String :=
  "\x7b\x7b" ++ path ++ " | " ++ filter ++ "\x7d\x7d"

/-- What stands between the braces of that tag. -/
def filterText (path filter : String) : List Char :=
  path.toList ++ (' ' :: '|' :: ' ' :: filter.toList)

theorem toList_filterTag (path filter : String) :
    (filterTag path filter).toList = (Markup.Segment.tag (filterText path filter)).source := by
  simp [filterTag, filterText, Markup.Segment.source]

/-- Blanks around a text do not pair with anything in it. -/
theorem Token.noPair_gaps {s w r : List Char} {c : Char} (visible : Text.isBlank c = false)
    (blank : Gap s) (blank' : Gap r) (h : Markup.NoPair c w) :
    Markup.NoPair c (s ++ (w ++ r)) := by
  have other {a : Char} (gap : Text.isBlank a = true) : a ≠ c := by
    rintro rfl
    exact absurd (gap.symm.trans visible) (by decide)
  induction s with
  | cons a s ih =>
      obtain ⟨first, rest⟩ := List.forall_mem_cons.1 blank
      exact (Markup.noPair_cons (other first)).2 (ih rest)
  | nil =>
      cases r with
      | nil => rwa [List.nil_append, List.append_nil]
      | cons a r =>
          obtain ⟨first, rest⟩ := List.forall_mem_cons.1 blank'
          have free : c ∉ r := fun inside => other (rest c inside) rfl
          exact (Markup.noPair_append_cons (other first)).2 ⟨h, Markup.noPair_of_not_mem free⟩

namespace Path.InTag

variable {path name filter : String} (h : Path.InTag path name)

include h

/-- The path is found where the name is. -/
theorem lookup_eq (s : Store) : s.lookup path = s.lookup name := by
  obtain ⟨before, after, blank, blank', whole⟩ := h.blanks
  refine Store.lookup_congr_segments ?_ s
  rw [segments, segments, whole, Token.strip_gaps blank blank' h.named.word.trimmed,
    h.named.word.trimmed.strip_eq]

variable (filters : Token.IsWord filter.toList)

include filters

theorem spells_filterText :
    Token.Spells (Expression.written (.var name (some filter))) (filterText path filter) := by
  obtain ⟨before, after, blank, blank', whole⟩ := h.blanks
  have last : Token.Spells [.word filter] filter.toList := by
    have word := (Token.Written.word filters).spells
    rwa [String.ofList_toList] at word
  have bar : Token.Spells [.op .bar, .word filter] ('|' :: ' ' :: filter.toList) :=
    (last.gap_append Token.gap_space).before (.op .bar) (by simp)
  have path : Token.Spells [.word name, .op .bar, .word filter]
      (name.toList ++ (after ++ [' '] ++ '|' :: ' ' :: filter.toList)) :=
    (bar.gap_append (blank'.append Token.gap_space)).before h.named.written (by simp)
  have text := path.gap_append blank
  rw [filterText, whole]
  simpa [Expression.written] using text

/-- The tag begins with the name, if blanks do not count. -/
theorem takeWhile_strip_filterText :
    ((Text.strip (filterText path filter)).takeWhile fun c => !Text.isBlank c) = name.toList := by
  obtain ⟨before, after, blank, blank', whole⟩ := h.blanks
  have text : filterText path filter =
      before ++ ((name.toList ++ ((after ++ [' ']) ++ '|' :: ' ' :: filter.toList)) ++ []) := by
    rw [filterText, whole]
    simp
  have trimmed :
      Text.Trimmed (name.toList ++ ((after ++ [' ']) ++ '|' :: ' ' :: filter.toList)) := by
    have firm : Text.EndsFirm filter.toList := ⟨filters.filled, filters.trimmed.back⟩
    refine ⟨h.named.word.front _, ?_⟩
    have ends := (firm.append (name.toList ++ ((after ++ [' ']) ++ ['|', ' ']))).2
    simpa using ends
  rw [text, Token.strip_gaps blank Token.gap_nil trimmed,
    List.takeWhile_append_of_pos h.named.word.visible]
  cases after with
  | nil => rw [List.nil_append, List.singleton_append, List.takeWhile_cons_of_neg (by decide),
      List.append_nil]
  | cons a after =>
      have space := blank' a List.mem_cons_self
      rw [List.cons_append, List.cons_append, List.takeWhile_cons_of_neg (by simp [space]),
        List.append_nil]

theorem tagStep_filterText :
    Markup.tagStep (filterText path filter) =
      .leaf (.expression (.var name (some filter))) := by
  have spelled := (h.spells_filterText filters).strip
  have piped : '|' ∈ Text.strip (filterText path filter) :=
    spelled.text_subset (.op .bar) (by simp [Expression.written]) (by decide)
  apply Markup.tagStep_leaf
  · refine Expression.parse_eq_ok_iff.2 ⟨_, Expression.form_written _, ?_⟩
    rwa [String.toList_ofList]
  · rw [h.takeWhile_strip_filterText filters]
    simp only [List.forall_mem_cons, ne_eq, String.toList_inj]
    exact ⟨h.opens.1, h.opens.2, List.forall_mem_nil _⟩
  · have other {word : String} (plain : '|' ∉ word.toList) :
        Text.strip (filterText path filter) ≠ word.toList := by
      intro same
      exact plain (same ▸ piped)
    simp only [List.forall_mem_cons]
    exact ⟨other (by decide), other (by decide), List.forall_mem_nil _⟩

variable (whole : Markup.Sealed '\x7d' filter.toList)

include whole

theorem sealed_filterText : Markup.Sealed '\x7d' (filterText path filter) := by
  obtain ⟨before, after, blank, blank', split⟩ := h.blanks
  have own : Markup.NoPair '\x7d' path.toList :=
    split ▸ Token.noPair_gaps (by decide) blank blank' h.named.closing
  refine ⟨Token.noPair_infix .bar own whole.1, ?_⟩
  rw [filterText, List.getLast?_append, List.getLast?_cons_of_ne_nil (by simp),
    List.getLast?_cons_of_ne_nil (by simp), List.getLast?_cons_of_ne_nil filters.filled]
  obtain ⟨c, last⟩ := Option.isSome_iff_exists.1 (List.getLast?_isSome.2 filters.filled)
  have ends := whole.2
  rw [last] at ends ⊢
  exact ends

/-- The tag alone prints what the expression prints. -/
theorem render_filterTag_alone (fs : Filters) (s : Store) :
    Markup.render fs (filterTag path filter) s =
      (Expression.var path (some filter)).render fs s := by
  rw [Markup.render_leaf (toList_filterTag path filter) (h.sealed_filterText filters whole)
    (h.tagStep_filterText filters), Expression.render, Expression.render, h.lookup_eq]

/-- The tag prints what the expression prints, and what stands around it is printed as before. -/
theorem render_filterTag {before : String} (closed : Markup.Closed before) (after : String)
    (fs : Filters) (s : Store) :
    Markup.render fs (before ++ (filterTag path filter ++ after)) s = do
      return (← Markup.render fs before s) ++
        ((← (Expression.var path (some filter)).render fs s) ++ (← Markup.render fs after s)) := by
  have own := Markup.closed_leaf (toList_filterTag path filter) (h.sealed_filterText filters whole)
    (h.tagStep_filterText filters)
  rw [Markup.render_append closed, Markup.render_append own,
    h.render_filterTag_alone filters whole]
  cases Markup.render fs before s <;> cases (Expression.var path (some filter)).render fs s <;>
    cases Markup.render fs after s <;> rfl

end Path.InTag

end MinuteBook
