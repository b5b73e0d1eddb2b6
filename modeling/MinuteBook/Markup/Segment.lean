/-!
# Segments of a template

A template is split into tags, which stand between two opening and two closing braces, and the
texts between them. A tag begins at the first pair of opening braces behind which a pair of closing
braces follows, and ends at the first such pair.
-/

namespace MinuteBook.Markup

/-- What stands before and behind the first place where a character comes twice. -/
def cutAtPair (c : Char) : List Char → Option (List Char × List Char)
  | a :: b :: r =>
    if a = c ∧ b = c then some ([], r)
    else (cutAtPair c (b :: r)).map fun p => (a :: p.1, p.2)
  | _ => none

theorem eq_append_of_cutAtPair {c : Char} {s before after : List Char}
    (h : cutAtPair c s = some (before, after)) : s = before ++ c :: c :: after := by
  induction s generalizing before with
  | nil => simp [cutAtPair] at h
  | cons a r ih =>
    cases r with
    | nil => simp [cutAtPair] at h
    | cons b r =>
      simp only [cutAtPair] at h
      split at h
      · simp_all
      · obtain ⟨⟨p, q⟩, hp, he⟩ := Option.map_eq_some_iff.1 h
        simp only [Prod.mk.injEq] at he
        obtain ⟨rfl, rfl⟩ := he
        rw [ih hp, List.cons_append]

/-- The first tag: what stands before it, its body, and what stands behind it. -/
def firstTag? (s : List Char) : Option (List Char × List Char × List Char) := do
  let (before, rest) ← cutAtPair '\x7b' s
  let (body, after) ← cutAtPair '\x7d' rest
  return (before, body, after)

theorem eq_append_of_firstTag? {s before body after : List Char}
    (h : firstTag? s = some (before, body, after)) :
    s = before ++ '\x7b' :: '\x7b' :: (body ++ '\x7d' :: '\x7d' :: after) := by
  simp only [firstTag?, Option.bind_eq_bind, Option.bind_eq_some_iff, Option.pure_def,
    Option.some.injEq, Prod.mk.injEq, Prod.exists] at h
  obtain ⟨_, rest, h₁, _, _, h₂, rfl, rfl, rfl⟩ := h
  rw [eq_append_of_cutAtPair h₁, eq_append_of_cutAtPair h₂]

inductive Segment where
  | text (s : List Char)
  | tag (body : List Char)
  deriving DecidableEq

/-- The part of the template that a segment is. -/
def Segment.source : Segment → List Char
  | .text s => s
  | .tag body => '\x7b' :: '\x7b' :: body ++ ['\x7d', '\x7d']

/-- A text as a segment; an empty one is no segment. -/
def textSegments (s : List Char) : List Segment := if s = [] then [] else [.text s]

/-- Splits a template into its segments. -/
def segments (s : List Char) : List Segment :=
  match _h : firstTag? s with
  | none => textSegments s
  | some (before, body, after) => textSegments before ++ .tag body :: segments after
termination_by s.length
decreasing_by
  have h := congrArg List.length (eq_append_of_firstTag? _h)
  simp only [List.length_append, List.length_cons] at h
  omega

theorem segments_of_none {s : List Char} (h : firstTag? s = none) :
    segments s = textSegments s := by
  rw [segments]
  split
  · rfl
  · simp_all

theorem segments_of_some {s before body after : List Char}
    (h : firstTag? s = some (before, body, after)) :
    segments s = textSegments before ++ .tag body :: segments after := by
  rw [segments]
  split
  · simp_all
  · simp_all

theorem source_textSegments (s : List Char) : (textSegments s).flatMap Segment.source = s := by
  unfold textSegments
  split <;> simp_all [Segment.source]

/-- The segments in their order make up the template. -/
theorem source_segments (s : List Char) : (segments s).flatMap Segment.source = s := by
  induction s using segments.induct with
  | case1 s h => rw [segments_of_none h, source_textSegments]
  | case2 s before body after h ih =>
    rw [segments_of_some h, List.flatMap_append, List.flatMap_cons, source_textSegments, ih]
    conv => rhs; rw [eq_append_of_firstTag? h]
    simp [Segment.source]

end MinuteBook.Markup
