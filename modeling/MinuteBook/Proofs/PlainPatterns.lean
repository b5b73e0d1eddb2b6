import MinuteBook.FileName
import MinuteBook.Proofs.Markup.Composition
import MinuteBook.Proofs.Store.Agreement

/-!
# Plain patterns

A pattern of a file name is plain if it consists of texts and of placeholders that hold a path and
blanks round it. Patterns and templates are scanned and printed in ways of their own, but a plain
pattern names the file by what it prints as a template, provided that no list stands at one of its
paths (`render_pattern`). Both are taken apart at the same seams: a text in front of anything is
copied (`expand_sealed_append`), and a placeholder in front of anything is filled (`expand_tag`).
-/

namespace MinuteBook

open Markup

namespace FileName

variable {s : Store} {t body : List Char} {p : String}

/-! ## Scanning -/

theorem placeholder?_eq_none (h : ¬ ['\x7b', '\x7b'] <+: t) : placeholder? t = none := by
  unfold placeholder?
  split
  · exact absurd (List.prefix_append ['\x7b', '\x7b'] _) h
  · rfl

theorem expand_cons {c : Char} (h : ¬ ['\x7b', '\x7b'] <+: c :: t) :
    expand s (c :: t) = do return c :: (← expand s t) := by
  rw [expand]
  split
  · rename_i found
    exact absurd ((placeholder?_eq_none h).symm.trans found) (by simp)
  · rfl

/-- A sealed text begins no placeholder, whatever stands behind it. -/
theorem expand_sealed_append (h : Sealed '\x7b' t) (r : List Char) :
    expand s (t ++ r) = do return t ++ (← expand s r) := by
  induction t with
  | nil => exact (bind_pure _).symm
  | cons c t ih =>
      have apart : ¬ ['\x7b', '\x7b'] <+: c :: (t ++ r) := by
        rw [List.cons_prefix_cons]
        rintro ⟨rfl, second⟩
        cases t with
        | nil => exact h.2 rfl
        | cons b t =>
            obtain ⟨rfl, -⟩ := List.cons_prefix_cons.1 second
            exact (sealed_cons_cons.1 h).1 ⟨rfl, rfl⟩
      rw [List.cons_append, expand_cons apart, ih h.of_cons]
      cases expand s r <;> rfl

/-- A body without closing braces is all of a placeholder. -/
theorem expand_tag (filled : body ≠ []) (free : '\x7d' ∉ body) (r : List Char) :
    expand s ((Segment.tag body).source ++ r) =
      do return (← fill s (String.ofList body)).toList ++ (← expand s r) := by
  have others : ∀ c ∈ body, (c != '\x7d') = true := by
    intro c inside
    rw [bne_iff_ne]
    rintro rfl
    exact free inside
  have found : placeholder? ((Segment.tag body).source ++ r) = some (body, r) := by
    obtain ⟨c, body, rfl⟩ := List.exists_cons_of_ne_nil filled
    have source : (Segment.tag (c :: body)).source ++ r =
        '\x7b' :: '\x7b' :: (c :: body ++ '\x7d' :: '\x7d' :: r) := by simp [Segment.source]
    rw [source, placeholder?, body?, List.takeWhile_append_of_pos others,
      List.dropWhile_append_of_pos others]
    simp
  rw [expand]
  split
  · rename_i found'
    obtain ⟨rfl, rfl⟩ := Prod.mk.inj (Option.some.inj (found'.symm.trans found))
    rfl
  · rename_i none
    exact absurd (none.symm.trans found) (by simp)

/-! ## Pieces -/

/-- A path that a template takes for nothing else: a word without closing braces that neither opens
nor closes a block. -/
structure PlainPath (p : String) : Prop where
  word : Token.IsWord p.toList
  closing : '\x7d' ∉ p.toList
  other : p ∉ blockWords

/-- A piece of a plain pattern: a text, or a path between braces with blanks on both sides. -/
inductive Piece where
  | text (t : String) (whole : Sealed '\x7b' t.toList)
  | path (before p after : String) (plain : PlainPath p) (blank : Token.Gap before.toList)
    (blank' : Token.Gap after.toList)

namespace Piece

def source : Piece → String
  | .text t _ => t
  | .path before p after _ _ _ => "\x7b\x7b" ++ before ++ p ++ after ++ "\x7d\x7d"

/-- The path of a placeholder. -/
def path? : Piece → Option String
  | .text _ _ => none
  | .path _ p _ _ _ _ => some p

end Piece

/-- The pattern that pieces make up. -/
def pattern : List Piece → String
  | [] => ""
  | x :: xs => x.source ++ pattern xs

/-! ## Placeholders -/

section

variable {before after : String}

/-- The characters between the braces of a placeholder. -/
def inner (before p after : String) : List Char := before.toList ++ (p.toList ++ after.toList)

theorem source_path (plain : PlainPath p) (blank : Token.Gap before.toList)
    (blank' : Token.Gap after.toList) :
    (Piece.path before p after plain blank blank').source.toList =
      (Segment.tag (inner before p after)).source := by
  simp [Piece.source, Segment.source, inner]

variable (plain : PlainPath p) (blank : Token.Gap before.toList) (blank' : Token.Gap after.toList)

include plain blank blank'

theorem closing_not_mem_inner : '\x7d' ∉ inner before p after := by
  have visible : Text.isBlank '\x7d' ≠ true := by decide
  rw [inner, List.mem_append, List.mem_append]
  rintro (left | inside | right)
  · exact visible (blank _ left)
  · exact plain.closing inside
  · exact visible (blank' _ right)

theorem strip_inner : Text.strip (inner before p after) = p.toList :=
  Token.strip_gaps blank blank' plain.word.trimmed

/-- Blanks round a path do not count. -/
theorem fill_inner (s : Store) : fill s (String.ofList (inner before p after)) = fill s p := by
  have same : Path.segments (String.ofList (inner before p after)) = Path.segments p := by
    rw [Path.segments, Path.segments, String.toList_ofList, strip_inner plain blank blank',
      plain.word.trimmed.strip_eq]
  rw [fill, fill, Store.lookup_congr_segments same]

theorem expand_path (s : Store) (r : List Char) :
    expand s ((Piece.path before p after plain blank blank').source.toList ++ r) =
      do return (← fill s p).toList ++ (← expand s r) := by
  have filled : inner before p after ≠ [] :=
    List.append_ne_nil_of_right_ne_nil _ (List.append_ne_nil_of_left_ne_nil plain.word.filled _)
  rw [source_path, expand_tag filled (closing_not_mem_inner plain blank blank'),
    fill_inner plain blank blank']

/-- As a tag of a template, a placeholder prints its path. -/
theorem tagStep_inner : tagStep (inner before p after) = .leaf (.expression (.var p none)) := by
  have name : IsName p := ⟨plain.word, noPair_of_not_mem plain.closing⟩
  have stripped := strip_inner plain blank blank'
  have read : Expression.parse p = .ok (.var p none) :=
    Expression.parse_eq_ok_iff.2 ⟨_, .path p, name.written.spells⟩
  have other {word : String} (block : word ∈ blockWords) : p.toList ≠ word.toList := by
    intro same
    exact plain.other (String.toList_inj.1 same ▸ block)
  apply tagStep_leaf
  · rw [stripped, String.ofList_toList, read]
  · rw [stripped, List.takeWhile_eq_self_iff.2 plain.word.visible]
    simp only [List.forall_mem_cons]
    exact ⟨other (by decide), other (by decide), List.forall_mem_nil _⟩
  · rw [stripped]
    simp only [List.forall_mem_cons]
    exact ⟨other (by decide), other (by decide), List.forall_mem_nil _⟩

theorem closed_path : Closed (Piece.path before p after plain blank blank').source :=
  closed_leaf (source_path plain blank blank')
    (sealed_of_not_mem (closing_not_mem_inner plain blank blank'))
    (tagStep_inner plain blank blank')

theorem render_path (filters : Filters) (s : Store) :
    Markup.render filters (Piece.path before p after plain blank blank').source s =
      (Expression.var p none).render filters s :=
  render_leaf (source_path plain blank blank')
    (sealed_of_not_mem (closing_not_mem_inner plain blank blank'))
    (tagStep_inner plain blank blank') filters s

end

/-- Where there is no list, a placeholder prints what the path prints in a template. -/
theorem fill_eq_render (single : ∀ vs, s.lookup p ≠ some (.list vs)) (filters : Filters) :
    fill s p = (Expression.var p none).render filters s := by
  rw [fill, Expression.render]
  cases found : s.lookup p with
  | none => rfl
  | some v =>
      have same : (do return filters.apply none v (← v.plain) : Except Fault String) = v.plain :=
        bind_pure _
      cases v with
      | list vs => exact absurd found (single vs)
      | _ => exact same.symm

/-! ## Patterns -/

variable {pieces : List Piece}

/-- Before it is made the name of a file, a plain pattern is what it prints as a template. -/
theorem expand_pattern
    (single : ∀ x ∈ pieces, ∀ p ∈ x.path?, ∀ vs, s.lookup p ≠ some (.list vs))
    (filters : Filters) :
    expand s (pattern pieces).toList =
      do return (← Markup.render filters (pattern pieces) s).toList := by
  induction pieces with
  | nil =>
      have none : expand s "".toList = .ok [] := by
        rw [expand]
        rfl
      rw [pattern, render_text noPair_nil, none]
      rfl
  | cons x pieces ih =>
      rw [List.forall_mem_cons] at single
      rw [pattern, String.toList_append]
      cases x with
      | text t whole =>
          rw [Piece.source, expand_sealed_append whole, render_append (closed_text whole),
            render_text whole.1, ih single.2]
          cases Markup.render filters (pattern pieces) s with
          | error e => rfl
          | ok out => exact congrArg Except.ok String.toList_append.symm
      | path before p after plain blank blank' =>
          rw [expand_path plain blank blank', render_append (closed_path plain blank blank'),
            render_path plain blank blank', fill_eq_render (single.1 p rfl) filters, ih single.2]
          cases (Expression.var p none).render filters s with
          | error e => rfl
          | ok first =>
              cases Markup.render filters (pattern pieces) s with
              | error e => rfl
              | ok out => exact congrArg Except.ok String.toList_append.symm

/-- A file is named by what a plain pattern prints as a template, unless a list stands at one of its
paths: both give the same name, or the same fault. -/
theorem render_pattern (pieces : List Piece) (s : Store)
    (single : ∀ x ∈ pieces, ∀ p ∈ x.path?, ∀ vs, s.lookup p ≠ some (.list vs))
    (filters : Filters) :
    render (.text (pattern pieces)) s =
      do return sanitize (← Markup.render filters (pattern pieces) s) := by
  rw [render, expand_pattern single filters]
  cases Markup.render filters (pattern pieces) s with
  | error e => rfl
  | ok out => exact congrArg (fun name => Except.ok (sanitize name)) String.ofList_toList

/-- For instance, with a slash in an answer and a brace in the text between the placeholders. -/
theorem render_pattern_of_answers :
    let store : Store := ⟨[("id", .text "A/1"), ("e", .mapping [("name", .text "Inc")])], []⟩
    ∃ pieces, pattern pieces = "\x7b\x7b id\x7d\x7d - \x7b.\x7b\x7be.name\x7d\x7d" ∧
      (∀ x ∈ pieces, ∀ p ∈ x.path?, ∀ vs, store.lookup p ≠ some (.list vs)) ∧
      Markup.render [] (pattern pieces) store = .ok "A/1 - \x7b.Inc" ∧
      render (.text (pattern pieces)) store = .ok "A1 - \x7b.Inc" := by
  intro store
  have plain {p : String} (filled : p.toList ≠ []) (chars : p.toList.all Token.isWordChar = true)
      (closing : '\x7d' ∉ p.toList) (other : p ∉ blockWords) : PlainPath p :=
    ⟨⟨filled, List.all_eq_true.1 chars⟩, closing, other⟩
  have id := plain (p := "id") (by decide) (by decide) (by decide) (by decide)
  have name := plain (p := "e.name") (by decide) (by decide) (by decide) (by decide)
  have whole : Sealed '\x7b' " - \x7b.".toList := by
    have dot : '.' ≠ '\x7b' := by decide
    have before : NoPair '\x7b' [' ', '-', ' ', '\x7b'] := by
      simp [noPair_cons_cons, noPair_singleton]
    exact ⟨(noPair_append_cons dot).2 ⟨before, noPair_nil⟩, by decide⟩
  let pieces : List Piece := [.path " " "id" "" id Token.gap_space Token.gap_nil,
    .text " - \x7b." whole, .path "" "e.name" "" name Token.gap_nil Token.gap_nil]
  have source : pattern pieces = "\x7b\x7b id\x7d\x7d - \x7b.\x7b\x7be.name\x7d\x7d" := rfl
  have single : ∀ x ∈ pieces, ∀ p ∈ x.path?, ∀ vs, store.lookup p ≠ some (.list vs) := by
    have number : store.lookup "id" = some (.text "A/1") := by decide +kernel
    have entity : store.lookup "e.name" = some (.text "Inc") := by decide +kernel
    simp [pieces, Piece.path?, number, entity]
  have printed : Markup.render [] (pattern pieces) store = .ok "A/1 - \x7b.Inc" := by
    rw [source]
    decide +kernel
  have named := render_pattern pieces store single []
  rw [printed] at named
  exact ⟨pieces, source, single, printed, named⟩

end FileName

end MinuteBook
