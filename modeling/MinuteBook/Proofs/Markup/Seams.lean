import MinuteBook.Proofs.Markup.Segments

/-!
# Texts and tags put together anew

When segments are put together in another way, two texts may come to stand side by side and are one
text then (`fuse`). Apart from that the segments are those that were put together
(`segments_flatMap`), because a text before a tag is sealed: it holds no pair of opening braces and
does not end in half of one, so that nothing behind it can complete a pair. The same holds of the
segments of any template (`splits_segments`), of some of them in their order (`Splits.sublist`), and
of two templates one after the other (`Splits.append`).
-/

namespace MinuteBook.Markup

variable {c : Char}

/-! ## Sealed texts -/

/-- No pair of a character, and no half of one at the end. -/
def Sealed (c : Char) (s : List Char) : Prop := NoPair c s ∧ s.getLast? ≠ some c

section

variable {s t before after body : List Char}

theorem sealed_nil : Sealed c [] := ⟨noPair_nil, by simp⟩

theorem sealed_of_not_mem (h : c ∉ s) : Sealed c s :=
  ⟨noPair_of_not_mem h, fun last => h (List.mem_of_getLast? last)⟩

theorem sealed_cons_cons {a b : Char} :
    Sealed c (a :: b :: s) ↔ ¬ (a = c ∧ b = c) ∧ Sealed c (b :: s) := by
  rw [Sealed, Sealed, noPair_cons_cons, List.getLast?_cons_cons, and_assoc]

theorem Sealed.of_cons {a : Char} (h : Sealed c (a :: s)) : Sealed c s := by
  cases s with
  | nil => exact sealed_nil
  | cons b s => exact (sealed_cons_cons.1 h).2

/-- What follows a sealed text makes no pair with it. -/
theorem Sealed.noPair_append (h : Sealed c s) (h' : NoPair c t) : NoPair c (s ++ t) := by
  induction s with
  | nil => exact h'
  | cons a s ih =>
      cases s with
      | cons b s =>
          rw [sealed_cons_cons] at h
          exact noPair_cons_cons.2 ⟨h.1, ih h.2⟩
      | nil =>
          have other : a ≠ c := by simpa using h.2
          exact (noPair_cons other).2 h'

theorem Sealed.append (h : Sealed c s) (h' : Sealed c t) : Sealed c (s ++ t) := by
  refine ⟨h.noPair_append h'.1, ?_⟩
  cases t with
  | nil => simpa using h.2
  | cons b t =>
      rw [List.getLast?_append_of_ne_nil s (List.cons_ne_nil b t)]
      exact h'.2

theorem sealed_flatten {parts : List (List Char)} (h : ∀ part ∈ parts, Sealed c part) :
    Sealed c parts.flatten := by
  induction parts with
  | nil => exact sealed_nil
  | cons part parts ih =>
      rw [List.forall_mem_cons] at h
      exact h.1.append (ih h.2)

/-- A sealed text moves the first pair to the right. -/
theorem cutAtPair_sealed_append (h : Sealed c s) (r : List Char) :
    cutAtPair c (s ++ r) = (cutAtPair c r).map fun p => (s ++ p.1, p.2) := by
  induction s with
  | nil => simp
  | cons a s ih =>
      obtain ⟨none, ends⟩ := h
      cases s with
      | nil =>
          have other : a ≠ c := by simpa using ends
          cases r with
          | nil => rfl
          | cons b r => rw [List.singleton_append, cutAtPair, if_neg fun h => other h.1]; rfl
      | cons b s =>
          rw [noPair_cons_cons] at none
          rw [List.getLast?_cons_cons] at ends
          rw [List.cons_append, List.cons_append, cutAtPair, if_neg none.1, ← List.cons_append,
            ih ⟨none.2, ends⟩, Option.map_map]
          rfl

/-- What stands before the first pair is sealed. -/
theorem sealed_of_cutAtPair (h : cutAtPair c s = some (before, after)) : Sealed c before := by
  induction s generalizing before with
  | nil => simp [cutAtPair] at h
  | cons a s ih =>
      cases s with
      | nil => simp [cutAtPair] at h
      | cons b s =>
          rw [cutAtPair] at h
          split at h
          · obtain ⟨rfl, -⟩ := Prod.mk.inj (Option.some.inj h)
            exact sealed_nil
          · rename_i apart
            obtain ⟨⟨rest, after'⟩, cut, same⟩ := Option.map_eq_some_iff.1 h
            obtain ⟨rfl, rfl⟩ := Prod.mk.inj same
            obtain ⟨none, ends⟩ := ih cut
            -- The character behind `a` is the first of the rest, or the first of the pair.
            cases rest with
            | nil =>
                have pair := eq_append_of_cutAtPair cut
                obtain rfl : b = c := (List.cons.inj pair).1
                exact ⟨noPair_singleton, by simpa using apart⟩
            | cons b' rest =>
                have pair := eq_append_of_cutAtPair cut
                obtain rfl : b = b' := (List.cons.inj pair).1
                exact ⟨noPair_cons_cons.2 ⟨apart, none⟩, by rwa [List.getLast?_cons_cons]⟩

theorem firstTag?_sealed_append (h : Sealed '\x7b' s) (r : List Char) :
    firstTag? (s ++ r) = (firstTag? r).map fun p => (s ++ p.1, p.2) := by
  rw [firstTag?, firstTag?, cutAtPair_sealed_append h]
  cases cutAtPair '\x7b' r with
  | none => rfl
  | some p =>
      simp only [Option.map_some, Option.bind_eq_bind, Option.bind_some]
      cases cutAtPair '\x7d' p.2 <;> rfl

theorem sealed_of_firstTag? (h : firstTag? s = some (before, body, after)) :
    Sealed '\x7b' before ∧ Sealed '\x7d' body := by
  simp only [firstTag?, Option.bind_eq_bind, Option.bind_eq_some_iff, Option.pure_def,
    Option.some.injEq, Prod.mk.injEq, Prod.exists] at h
  obtain ⟨_, _, opening, _, _, closing, rfl, rfl, -⟩ := h
  exact ⟨sealed_of_cutAtPair opening, sealed_of_cutAtPair closing⟩

end

/-! ## Sequences that are split where they were put together -/

/-- A segment whose end is found whatever follows it. -/
def Segment.Sealed : Segment → Prop
  | .text s => Markup.Sealed '\x7b' s
  | .tag body => Markup.Sealed '\x7d' body

/-- All segments are sealed but perhaps the last one, in which there is still no tag. -/
inductive Splits : List Segment → Prop
  | nil : Splits []
  | last {s : List Char} (untagged : firstTag? s = none) : Splits [.text s]
  | cons {seg : Segment} {segs : List Segment} (first : seg.Sealed) (rest : Splits segs) :
      Splits (seg :: segs)

variable {s : List Char} {segs more kept : List Segment}

theorem splits_textSegments (h : firstTag? s = none) : Splits (textSegments s) := by
  unfold textSegments
  split
  · exact .nil
  · exact .last h

theorem splits_text_append (h : Sealed '\x7b' s) (rest : Splits segs) :
    Splits (textSegments s ++ segs) := by
  unfold textSegments
  split
  · exact rest
  · exact .cons h rest

theorem splits_segments (s : List Char) : Splits (segments s) := by
  induction s using segments.induct with
  | case1 s none =>
      rw [segments_of_none none]
      exact splits_textSegments none
  | case2 s before body after found ih =>
      obtain ⟨text, tag⟩ := sealed_of_firstTag? found
      rw [segments_of_some found]
      exact splits_text_append text (.cons tag ih)

theorem Splits.append (h : ∀ seg ∈ segs, seg.Sealed) (rest : Splits more) :
    Splits (segs ++ more) := by
  induction segs with
  | nil => exact rest
  | cons seg segs ih =>
      rw [List.forall_mem_cons] at h
      exact .cons h.1 (ih h.2)

theorem Splits.sublist (h : Splits segs) (sub : kept.Sublist segs) : Splits kept := by
  induction h generalizing kept with
  | nil =>
      rw [List.sublist_nil.1 sub]
      exact .nil
  | last untagged =>
      rcases List.sublist_singleton.1 sub with rfl | rfl
      · exact .nil
      · exact .last untagged
  | cons first _ ih =>
      rcases List.sublist_cons_iff.1 sub with later | ⟨kept', rfl, later⟩
      · exact ih later
      · exact .cons first (ih later)

/-- Apart from a text at the end all segments are sealed. -/
theorem Splits.exists_tail (h : Splits segs) :
    ∃ before tail, segs = before ++ tail ∧ (∀ seg ∈ before, seg.Sealed) ∧
      (tail = [] ∨ ∃ t, tail = [.text t]) := by
  induction h with
  | nil => exact ⟨[], [], rfl, List.forall_mem_nil _, .inl rfl⟩
  | @last s _ => exact ⟨[], [.text s], rfl, List.forall_mem_nil _, .inr ⟨s, rfl⟩⟩
  | @cons seg _ first _ ih =>
      obtain ⟨before, tail, rfl, rest, ends⟩ := ih
      exact ⟨seg :: before, tail, rfl, List.forall_mem_cons.2 ⟨first, rest⟩, ends⟩

/-- All segments of a template are sealed if the text behind the last tag is. -/
theorem Splits.sealed (h : Splits segs)
    (tail : ∀ t, segs.getLast? = some (.text t) → Sealed '\x7b' t) :
    ∀ seg ∈ segs, seg.Sealed := by
  induction h with
  | nil => simp
  | last => exact List.forall_mem_singleton.2 (tail _ rfl)
  | cons first rest ih =>
      refine List.forall_mem_cons.2 ⟨first, ih fun t last => tail t ?_⟩
      rw [List.getLast?_cons, last]
      rfl

/-! ## Joining texts that stand side by side -/

/-- Puts a text before segments; it is one with the first of them if that is a text. -/
def addText (s : List Char) : List Segment → List Segment
  | .text t :: segs => .text (s ++ t) :: segs
  | segs => textSegments s ++ segs

/-- A text is joined with the one behind it, or stands on its own. -/
theorem addText_cases (s : List Char) (segs : List Segment) :
    (∃ t rest, segs = .text t :: rest ∧ addText s segs = .text (s ++ t) :: rest) ∨
      addText s segs = textSegments s ++ segs := by
  cases segs with
  | nil => exact .inr rfl
  | cons seg segs =>
      cases seg with
      | text t => exact .inl ⟨t, segs, rfl, rfl⟩
      | tag body => exact .inr rfl

/-- Joins texts that stand side by side. -/
def fuse : List Segment → List Segment
  | [] => []
  | .text s :: segs => addText s (fuse segs)
  | .tag body :: segs => .tag body :: fuse segs

theorem addText_textSegments (s t : List Char) {segs : List Segment}
    (tag : ∀ u, segs.head? ≠ some (.text u)) :
    addText s (textSegments t ++ segs) = textSegments (s ++ t) ++ segs := by
  by_cases none : t = []
  · subst none
    rw [textSegments, if_pos rfl, List.nil_append, List.append_nil, addText.eq_2]
    rintro u rest rfl
    exact tag u rfl
  · simp [textSegments, addText, none]

/-- A sealed text before a template is put before its segments. -/
theorem segments_sealed_append (h : Sealed '\x7b' s) (r : List Char) :
    segments (s ++ r) = addText s (segments r) := by
  have first := firstTag?_sealed_append h r
  cases found : firstTag? r with
  | none =>
      rw [found] at first
      have joined : addText s (textSegments r ++ []) = textSegments (s ++ r) ++ [] :=
        addText_textSegments s r (by simp)
      rw [List.append_nil, List.append_nil] at joined
      rw [segments_of_none found, segments_of_none first, joined]
  | some p =>
      obtain ⟨before, body, after⟩ := p
      rw [found] at first
      rw [segments_of_some found, segments_of_some first, addText_textSegments s before (by simp)]

/-- Segments that are put together are found again, but for texts that stand side by side. -/
theorem segments_flatMap (h : Splits segs) :
    segments (segs.flatMap Segment.source) = fuse segs := by
  induction h with
  | nil => exact segments_of_none rfl
  | @last s untagged =>
      rw [List.flatMap_singleton, Segment.source, segments_of_none untagged, fuse, fuse]
      simp [addText]
  | @cons seg segs first _ ih =>
      rw [List.flatMap_cons]
      cases seg with
      | text s => rw [Segment.source, segments_sealed_append first, ih, fuse]
      | tag body => rw [segments_tag first, ih, fuse]

/-- No texts of a template stand side by side. -/
theorem fuse_segments (s : List Char) : fuse (segments s) = segments s := by
  rw [← segments_flatMap (splits_segments s), source_segments]

theorem addText_append_tag (s body : List Char) (segs more : List Segment) :
    addText s (segs ++ .tag body :: more) = addText s segs ++ .tag body :: more := by
  cases segs with
  | nil => simp [addText]
  | cons seg segs => cases seg <;> simp [addText]

/-- A tag keeps texts apart. -/
theorem fuse_append_tag (segs : List Segment) (body : List Char) (more : List Segment) :
    fuse (segs ++ .tag body :: more) = fuse segs ++ .tag body :: fuse more := by
  induction segs with
  | nil => rfl
  | cons seg segs ih =>
      rw [List.cons_append]
      cases seg with
      | text s => rw [fuse, fuse, ih, addText_append_tag]
      | tag body' => rw [fuse, fuse, ih, List.cons_append]

theorem sealed_addText (h : Sealed '\x7b' s) (rest : ∀ seg ∈ segs, seg.Sealed) :
    ∀ seg ∈ addText s segs, seg.Sealed := by
  rcases addText_cases s segs with ⟨t, later, rfl, joined⟩ | apart
  · rw [List.forall_mem_cons] at rest
    rw [joined]
    exact List.forall_mem_cons.2 ⟨Markup.Sealed.append h rest.1, rest.2⟩
  · rw [apart, textSegments]
    split
    · exact rest
    · exact List.forall_mem_cons.2 ⟨h, rest⟩

theorem sealed_fuse (h : ∀ seg ∈ segs, seg.Sealed) : ∀ seg ∈ fuse segs, seg.Sealed := by
  induction segs with
  | nil => exact h
  | cons seg segs ih =>
      rw [List.forall_mem_cons] at h
      cases seg with
      | text s => exact sealed_addText h.1 (ih h.2)
      | tag body => exact List.forall_mem_cons.2 ⟨h.1, ih h.2⟩

end MinuteBook.Markup
