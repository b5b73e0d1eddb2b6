import MinuteBook.Proofs.Expression.Grammar
import MinuteBook.Proofs.Markup.Outline
import MinuteBook.Proofs.Printing.Braces
import MinuteBook.Proofs.Printing.Short

/-!
# No tag is left in a finished text

A finished text holds no pair of opening braces, provided that the answers hold no opening brace,
nor do the tags between their braces, and that no such pair stands behind the last tag
(`render_finished`). What is left of a template are the texts between its tags, and whatever comes
from a tag is free of braces. A text before a tag is sealed, so it makes no pair with what is
printed behind it, however often a block repeats it. Only the text behind the last tag may end in a
brace, and it stands at the end of the tree, because a block that is still open there leaves its
children in place.
-/

namespace MinuteBook

open Text (Unbraced)

variable {s : Store}

/-! ## Expressions -/

theorem Operand.unbraced_render {o : Operand} {out : String} (free : s.Unbraced)
    (own : Unbraced o.token.text.toList) (h : o.render s = .ok out) : Unbraced out.toList := by
  cases o with
  | literal text =>
      obtain rfl := Except.ok.inj h
      exact own
  | path p =>
      rw [render] at h
      cases found : s.lookup p with
      | none =>
          simp only [found] at h
          obtain rfl := Except.ok.inj h
          exact own
      | some v =>
          simp only [found] at h
          exact free.plain found h

namespace Expression

/-- The texts that an expression may print as they stand: its branches. -/
def ownTexts : Expression → List String
  | .var _ _ => []
  | .ternary _ _ yes no => [yes.token.text, no.token.text]

theorem unbraced_render {e : Expression} {out : String} (free : s.Unbraced)
    (own : ∀ text ∈ e.ownTexts, Unbraced text.toList) (h : e.render .builtin s = .ok out) :
    Unbraced out.toList := by
  cases e with
  | var path filter =>
      rw [render] at h
      cases found : s.lookup path with
      | none =>
          simp only [found] at h
          obtain rfl := Except.ok.inj h
          exact Text.unbraced_nil
      | some v =>
          simp only [found] at h
          obtain ⟨text, plain, h⟩ := bind_eq_ok.1 h
          obtain rfl := Except.ok.inj h
          exact Filters.unbraced_apply (free.plain found plain)
  | ternary lhs literal yes no =>
      simp only [ownTexts, List.forall_mem_cons] at own
      rw [render] at h
      obtain ⟨text, -, h⟩ := bind_eq_ok.1 h
      split at h
      · exact yes.unbraced_render free own.1 h
      · exact no.unbraced_render free own.2.1 h

/-- The branches of an expression stand in its source. -/
theorem ownTexts_subset {source : String} {e : Expression} (h : parse source = .ok e) :
    ∀ text ∈ e.ownTexts, text.toList ⊆ source.toList := by
  obtain ⟨ts, form, spelled⟩ := parse_eq_ok_iff.1 h
  have tokens := spelled.text_subset
  cases form with
  | path p => exact List.forall_mem_nil _
  | filtered p filter => exact List.forall_mem_nil _
  | ternary p denotes yes no =>
      simp only [ownTexts, List.forall_mem_cons]
      exact ⟨tokens yes.token (by simp), tokens no.token (by simp), List.forall_mem_nil _⟩

end Expression

namespace Markup

/-! ## Nodes -/

/-- A leaf that begins no tag: a text is sealed, and an expression has no brace in its branches. -/
def Node.Harmless : Node → Prop
  | .text t => Sealed '\x7b' t.toList
  | .expression e => ∀ text ∈ e.ownTexts, Unbraced text.toList
  | _ => True

def Visit.Harmless : Visit → Prop
  | .leaf node => node.Harmless
  | _ => True

mutual

/-- What a node prints is sealed if its leaves begin no tag. -/
theorem Node.sealed_render {n : Node} {s : Store} {out : List Char} (free : s.Unbraced)
    (harmless : ∀ v ∈ n.visits, v.Harmless) (h : n.render .builtin s = .ok out) :
    Sealed '\x7b' out := by
  match n with
  | .text t =>
      rw [Node.render] at h
      obtain rfl := Except.ok.inj h
      exact harmless _ List.mem_cons_self
  | .expression e =>
      rw [Node.render] at h
      obtain ⟨text, printed, h⟩ := bind_eq_ok.1 h
      obtain rfl := Except.ok.inj h
      exact sealed_of_not_mem (e.unbraced_render free (harmless _ List.mem_cons_self) printed)
  | .when test children =>
      simp only [Node.visits, List.forall_mem_cons, List.forall_mem_append] at harmless
      rw [Node.render] at h
      obtain ⟨holds, -, h⟩ := bind_eq_ok.1 h
      split at h
      · exact sealed_renderAll free harmless.2.1 h
      · obtain rfl := Except.ok.inj h
        exact sealed_nil
  | .each path children =>
      simp only [Node.visits, List.forall_mem_cons, List.forall_mem_append] at harmless
      rw [Node.render] at h
      obtain ⟨parts, each, h⟩ := bind_eq_ok.1 h
      obtain rfl := Except.ok.inj h
      refine sealed_flatten fun part member => ?_
      obtain ⟨item, inside, printed⟩ := exists_of_mem_mapM each member
      exact sealed_renderAll (free.set _ (free.itemsAt item inside)) harmless.2.1 printed
  | .blank source =>
      rw [Node.render] at h
      obtain rfl := Except.ok.inj h
      exact sealed_nil

theorem sealed_renderAll {ns : List Node} {s : Store} {out : List Char} (free : s.Unbraced)
    (harmless : ∀ v ∈ visitsAll ns, v.Harmless) (h : renderAll .builtin ns s = .ok out) :
    Sealed '\x7b' out := by
  match ns with
  | [] =>
      rw [renderAll] at h
      obtain rfl := Except.ok.inj h
      exact sealed_nil
  | n :: ns =>
      rw [visitsAll_cons, List.forall_mem_append] at harmless
      rw [renderAll] at h
      obtain ⟨first, head, h⟩ := bind_eq_ok.1 h
      obtain ⟨rest, tail, h⟩ := bind_eq_ok.1 h
      obtain rfl := Except.ok.inj h
      exact (Node.sealed_render free harmless.1 head).append
        (sealed_renderAll free harmless.2 tail)

end

/-! ## Segments -/

/-- A sealed text, or a tag without a brace, leaves no leaf that begins a tag. -/
theorem Segment.harmless_of_step {seg : Segment} {node : Node} (whole : seg.Sealed)
    (free : ∀ body, seg = .tag body → Unbraced body) (h : seg.step = .leaf node) :
    node.Harmless := by
  cases seg with
  | text t =>
      obtain rfl := Step.leaf.inj h
      rw [Node.Harmless, String.toList_ofList]
      exact whole
  | tag body =>
      rw [eq_leafOf_of_tagStep h, leafOf]
      split
      · rename_i e read
        intro text own
        have inside := Expression.ownTexts_subset read text own
        rw [String.toList_ofList] at inside
        exact (free body rfl).subset (List.Subset.trans inside (Text.strip_subset body))
      · exact trivial

/-- What is met in the tree of such segments begins no tag. -/
theorem harmless_of_visit {segs : List Segment} (whole : ∀ seg ∈ segs, seg.Sealed)
    (free : ∀ body, .tag body ∈ segs → Unbraced body) :
    ∀ v ∈ visitsAll (ofSteps (segs.map Segment.step)), v.Harmless := by
  intro v inside
  obtain ⟨seg, member, left⟩ := exists_segment_of_visit inside
  generalize step : seg.step = st at left
  cases left with
  | leaf node =>
      have own : ∀ body, seg = .tag body → Unbraced body := by
        rintro body rfl
        exact free body member
      exact seg.harmless_of_step (whole seg member) own step
  | enter block => exact trivial
  | leave kind source => exact trivial
  | blank kind source => exact trivial

theorem renderAll_concat_text (filters : Filters) (ns : List Node) (t : String) (s : Store) :
    renderAll filters (ns ++ [.text t]) s =
      (do return (← renderAll filters ns s) ++ t.toList) := by
  simp only [renderAll_append, renderAll_cons, renderAll_nil, Node.render, ok_bind,
    pure, Except.pure, List.append_nil]

/-- Where a template prints a text, there is no pair of opening braces in it. -/
theorem noPair_of_render {template out : String} (free : s.Unbraced)
    (behind : ∀ t, (segments template.toList).getLast? = some (.text t) → NoPair '\x7b' t)
    (tags : ∀ body, .tag body ∈ segments template.toList → Unbraced body)
    (h : render .builtin template s = .ok out) : NoPair '\x7b' out.toList := by
  obtain ⟨chars, all, done⟩ := bind_eq_ok.1 h
  obtain rfl := Except.ok.inj done
  rw [String.toList_ofList]
  -- The segments before the last text are sealed, and the last text stands at the end of the tree.
  obtain ⟨before, tail, cut, whole, ends⟩ := (splits_segments template.toList).exists_tail
  rw [cut] at behind tags
  rw [parse, cut, List.map_append] at all
  have harmless := harmless_of_visit whole fun body member =>
    tags body (List.mem_append_left tail member)
  rcases ends with rfl | ⟨t, rfl⟩
  · rw [List.map_nil, List.append_nil] at all
    exact (sealed_renderAll free harmless all).1
  · rw [List.map_singleton, Segment.step, ofSteps_concat_leaf, renderAll_concat_text,
      String.toList_ofList] at all
    obtain ⟨front, first, same⟩ := bind_eq_ok.1 all
    obtain rfl := Except.ok.inj same
    exact (sealed_renderAll free harmless first).noPair_append (behind t (by simp))

/-- A template is printed as a text without a pair of opening braces, unless a number in the
answers is too long to be written. It is enough that there is no brace in the answers and in the
tags, and no pair behind the last tag. -/
theorem render_finished (template : String) (s : Store)
    (behind : ∀ t, (segments template.toList).getLast? = some (.text t) → NoPair '\x7b' t)
    (tags : ∀ body, .tag body ∈ segments template.toList → '\x7b' ∉ body)
    (answers : ∀ text ∈ (Value.mapping s.values).texts, '\x7b' ∉ text.toList) :
    (∃ out, render .builtin template s = .ok out ∧ NoPair '\x7b' out.toList) ∨
      (render .builtin template s = .error .tooManyDigits ∧ ¬ s.Short) := by
  cases printed : render .builtin template s with
  | ok out => exact .inl ⟨out, rfl, noPair_of_render answers behind tags printed⟩
  | error f =>
      have long : f = .tooManyDigits := longOnly_renderValue .builtin template s f printed
      rw [long]
      exact .inr ⟨rfl, fun short => succeeds_renderValue .builtin template short f printed⟩

/-- For instance, a block that is never closed, a tag that cannot be read, a filter that is not
known and a closing tag too many leave nothing, and single braces stay. -/
theorem render_unfinished_tags :
    let template := "a\x7b \x7b\x7b#each rows\x7d\x7d<\x7b\x7bthis | shout\x7d\x7d>\x7b " ++
      "\x7b\x7b/each\x7d\x7d\x7b\x7b#if x\x7d\x7d\x7b\x7b== \x7d\x7d\x7b\x7b/each\x7d\x7d \x7b"
    let store : Store := ⟨[("rows", .list [.text "1", .text "\x7d\x7d"])], []⟩
    ∃ out, render .builtin template store = .ok out ∧ NoPair '\x7b' out.toList := by
  intro template store
  have split : segments template.toList =
      [.text "a\x7b ".toList, .tag "#each rows".toList, .text "<".toList,
        .tag "this | shout".toList, .text ">\x7b ".toList, .tag "/each".toList,
        .tag "#if x".toList, .tag "== ".toList, .tag "/each".toList, .text " \x7b".toList] := by
    decide +kernel
  have short : store.Short := ⟨⟨Value.short_text _, Value.short_text _, trivial⟩, trivial⟩
  refine (render_finished template store ?_ ?_ ?_).resolve_right fun failed => failed.2 short
  · intro t last
    rw [split] at last
    obtain rfl := Segment.text.inj (Option.some.inj last)
    exact (noPair_cons (by decide)).2 noPair_singleton
  · intro body inside
    simp only [split, List.mem_cons, reduceCtorEq, false_or, Segment.tag.injEq, List.not_mem_nil,
      or_false] at inside
    rcases inside with rfl | rfl | rfl | rfl | rfl | rfl <;> decide
  · decide

end Markup

end MinuteBook
