import Mathlib.Data.List.Chain
import MinuteBook.Markup.Segment

/-!
# Segments are found again

A sequence of texts and tags, written one after another, is split into the same sequence, provided
that the braces between them are the first that could be meant: no text holds a pair of opening
braces or ends in one, no tag holds a pair of closing braces or ends in one, and no two texts are
next to each other.
-/

namespace MinuteBook.Markup

variable {c a : Char} {s t before body after r : List Char}

/-! ## Pairs -/

/-- The character never comes twice in a row. -/
def NoPair (c : Char) (s : List Char) : Prop := ¬ [c, c] <:+: s

theorem noPair_nil : NoPair c [] := by
  simp [NoPair]

theorem noPair_of_not_mem (h : c ∉ s) : NoPair c s := by
  intro inside
  exact h (inside.subset List.mem_cons_self)

theorem noPair_singleton : NoPair c [a] := by
  rw [NoPair, List.infix_cons_iff, not_or]
  exact ⟨by simp, by simp⟩

theorem noPair_cons_cons {b : Char} :
    NoPair c (a :: b :: r) ↔ ¬ (a = c ∧ b = c) ∧ NoPair c (b :: r) := by
  rw [NoPair, List.infix_cons_iff, not_or, NoPair]
  simp [List.cons_prefix_cons, eq_comm]

theorem noPair_cons (other : a ≠ c) : NoPair c (a :: t) ↔ NoPair c t := by
  cases t with
  | nil => simp [noPair_singleton, noPair_nil]
  | cons b t => simp [noPair_cons_cons, other]

/-- Another character keeps the pairs before it and behind it apart. -/
theorem noPair_append_cons (other : a ≠ c) :
    NoPair c (s ++ a :: t) ↔ NoPair c s ∧ NoPair c t := by
  induction s with
  | nil => simp [noPair_cons other, noPair_nil]
  | cons b s ih =>
      cases s with
      | nil => simp [noPair_cons_cons, noPair_singleton, other, noPair_cons other]
      | cons b' s =>
          rw [List.cons_append, List.cons_append, noPair_cons_cons, noPair_cons_cons, and_assoc]
          exact and_congr_right fun _ => ih

theorem cutAtPair_eq_none (h : NoPair c s) : cutAtPair c s = none := by
  induction s with
  | nil => rfl
  | cons a s ih =>
      cases s with
      | nil => rfl
      | cons b s =>
          rw [noPair_cons_cons] at h
          rw [cutAtPair, if_neg h.1, ih h.2]
          rfl

/-- The first pair is the one behind a text without pairs that does not end in half of one. -/
theorem cutAtPair_append (h : NoPair c s) (ends : s.getLast? ≠ some c) (r : List Char) :
    cutAtPair c (s ++ c :: c :: r) = some (s, r) := by
  induction s with
  | nil => simp [cutAtPair]
  | cons a s ih =>
      cases s with
      | nil =>
          have other : a ≠ c := by simpa using ends
          simp [cutAtPair, other]
      | cons b s =>
          rw [noPair_cons_cons] at h
          rw [List.getLast?_cons_cons] at ends
          rw [List.cons_append, List.cons_append, cutAtPair, if_neg h.1, ← List.cons_append,
            ih h.2 ends]
          rfl

theorem firstTag?_eq_none (h : NoPair '\x7b' s) : firstTag? s = none := by
  rw [firstTag?, cutAtPair_eq_none h]
  rfl

theorem firstTag?_append (opening : NoPair '\x7b' before) (ends : before.getLast? ≠ some '\x7b')
    (closing : NoPair '\x7d' body) (ends' : body.getLast? ≠ some '\x7d') (after : List Char) :
    firstTag? (before ++ '\x7b' :: '\x7b' :: (body ++ '\x7d' :: '\x7d' :: after)) =
      some (before, body, after) := by
  rw [firstTag?, cutAtPair_append opening ends]
  simp [cutAtPair_append closing ends']

/-! ## Sequences of segments -/

theorem text_nil_not_mem_textSegments (s : List Char) : .text [] ∉ textSegments s := by
  unfold textSegments
  split
  · simp
  · rename_i filled
    simpa using Ne.symm filled

/-- An empty text is no segment. -/
theorem text_nil_not_mem_segments (s : List Char) : .text [] ∉ segments s := by
  induction s using segments.induct with
  | case1 s none =>
      rw [segments_of_none none]
      exact text_nil_not_mem_textSegments s
  | case2 s before body after found ih =>
      rw [segments_of_some found, List.mem_append, List.mem_cons]
      rintro (text | tag | later)
      · exact text_nil_not_mem_textSegments before text
      · exact absurd tag (by simp)
      · exact ih later

def Segment.isText : Segment → Bool
  | .text _ => true
  | .tag _ => false

/-- A segment whose ends are found again. -/
def Segment.Clear : Segment → Prop
  | .text s => s ≠ [] ∧ NoPair '\x7b' s ∧ s.getLast? ≠ some '\x7b'
  | .tag body => NoPair '\x7d' body ∧ body.getLast? ≠ some '\x7d'

/-- Of two segments in a row at most one is a text. -/
def Alternate (segs : List Segment) : Prop :=
  segs.IsChain fun a b => ¬ (a.isText = true ∧ b.isText = true)

theorem segments_tag (clear : (Segment.tag body).Clear) (r : List Char) :
    segments ((Segment.tag body).source ++ r) = .tag body :: segments r := by
  have first := firstTag?_append noPair_nil (by simp) clear.1 clear.2 r
  have source : (Segment.tag body).source ++ r =
      [] ++ '\x7b' :: '\x7b' :: (body ++ '\x7d' :: '\x7d' :: r) := by
    simp [Segment.source]
  rw [source, segments_of_some first]
  rfl

theorem segments_text_tag (clear : (Segment.text s).Clear) (clear' : (Segment.tag body).Clear)
    (r : List Char) :
    segments (s ++ ((Segment.tag body).source ++ r)) = .text s :: .tag body :: segments r := by
  have first := firstTag?_append clear.2.1 clear.2.2 clear'.1 clear'.2 r
  have source : (Segment.tag body).source ++ r =
      '\x7b' :: '\x7b' :: (body ++ '\x7d' :: '\x7d' :: r) := by
    simp [Segment.source]
  rw [source, segments_of_some first, textSegments, if_neg clear.1]
  rfl

/-- Segments that are clear and alternate are those of the template that they make up. -/
theorem segments_of_clear {segs : List Segment} (clear : ∀ seg ∈ segs, seg.Clear)
    (alternate : Alternate segs) : segments (segs.flatMap Segment.source) = segs := by
  induction segs with
  | nil => exact segments_of_none rfl
  | cons seg segs ih =>
      rw [List.forall_mem_cons] at clear
      have rest := ih clear.2 alternate.tail
      cases seg with
      | tag body => rw [List.flatMap_cons, segments_tag clear.1, rest]
      | text s =>
          -- Behind a text comes a tag or nothing.
          cases segs with
          | nil =>
              rw [List.flatMap_singleton, Segment.source,
                segments_of_none (firstTag?_eq_none clear.1.2.1), textSegments, if_neg clear.1.1]
          | cons next segs =>
              cases next with
              | text t => exact absurd alternate.rel (by simp [Segment.isText])
              | tag body =>
                  have clear' := clear.2 _ List.mem_cons_self
                  rw [List.flatMap_cons, segments_tag clear'] at rest
                  rw [List.flatMap_cons, List.flatMap_cons, Segment.source,
                    segments_text_tag clear.1 clear', rest]

end MinuteBook.Markup
