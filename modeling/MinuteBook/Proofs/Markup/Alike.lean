import Mathlib.Data.List.Forall2
import Mathlib.Data.Option.Basic
import MinuteBook.Markup.Render
import MinuteBook.Proofs.Markup.Seams

/-!
# Trees that print the same

Two trees may differ in nodes that print nothing, or in how a text is cut into pieces, and print the
same for every store of answers all the same. Blocks keep this (`Alike.node`), and so does every
step of building a tree (`Builder.Alike.step`), so that it is enough to compare two sequences of
steps where they differ. In particular segments that are put together anew print what they would
print one by one (`alike_parse`).
-/

namespace MinuteBook.Markup

/-- Nodes that print the same for every store, whatever the filters. -/
def Alike (ms ns : List Node) : Prop :=
  ∀ filters s, renderAll filters ms s = renderAll filters ns s

namespace Alike

variable {ms ms' ns ns' ks : List Node}

theorem refl (ns : List Node) : Alike ns ns := fun _ _ => rfl

theorem symm (h : Alike ms ns) : Alike ns ms := fun filters s => (h filters s).symm

theorem trans (h : Alike ms ns) (h' : Alike ns ks) : Alike ms ks :=
  fun filters s => (h filters s).trans (h' filters s)

theorem append (h : Alike ms ms') (h' : Alike ns ns') : Alike (ms ++ ns) (ms' ++ ns') := by
  intro filters s
  rw [renderAll_append, renderAll_append, h filters s, h' filters s]

/-- A block prints by what its children print. -/
theorem node (block : Opening) (h : Alike ms ns) : Alike [block.node ms] [block.node ns] := by
  intro filters s
  rw [renderAll_cons, renderAll_cons]
  cases block with
  | when test => rw [Opening.node, Opening.node, Node.render, Node.render, h filters s]
  | each path =>
      have each : (fun item => renderAll filters ms (s.set Store.itemKey item)) =
          fun item => renderAll filters ns (s.set Store.itemKey item) :=
        funext fun item => h filters _
      rw [Opening.node, Opening.node, Node.render, Node.render, each]

theorem blank (source : String) : Alike [.blank source] [] := by
  intro filters s
  rw [renderAll_cons, Node.render]
  rfl

theorem text_nil : Alike [.text (String.ofList [])] [] := by
  intro filters s
  rw [renderAll_cons, Node.render]
  rfl

theorem text_append (s t : List Char) :
    Alike [.text (String.ofList (s ++ t))] [.text (String.ofList s), .text (String.ofList t)] := by
  intro filters store
  simp only [renderAll_cons, Node.render, String.toList_ofList, renderAll_nil]
  simp [bind, Except.bind, pure, Except.pure]

end Alike

/-! ## Trees under construction -/

/-- One open block with children that print the same. -/
structure Frame.Alike (f g : Frame) : Prop where
  block : f.block = g.block
  children : Markup.Alike f.children.reverse g.children.reverse

/-- The same blocks are open, and what has been read so far prints the same. -/
structure Builder.Alike (b c : Builder) : Prop where
  root : Markup.Alike b.root.reverse c.root.reverse
  frames : List.Forall₂ Frame.Alike b.frames c.frames

namespace Builder

variable {b c : Builder} {ms ns root root' pending pending' : List Node} {fs gs : List Frame}

theorem Alike.refl (b : Builder) : Alike b b :=
  ⟨.refl _, List.forall₂_same.2 fun _ _ => ⟨rfl, .refl _⟩⟩

theorem alike_reverse_append (h : Markup.Alike ms.reverse ns.reverse)
    (h' : Markup.Alike root.reverse root'.reverse) :
    Markup.Alike (ms ++ root).reverse (ns ++ root').reverse := by
  rw [List.reverse_append, List.reverse_append]
  exact h'.append h

theorem Alike.append (h : Alike b c) (new : Markup.Alike ms.reverse ns.reverse) :
    Alike (append ms b) (append ns c) := by
  obtain ⟨root, fs⟩ := b
  obtain ⟨root', gs⟩ := c
  obtain ⟨roots, frames⟩ := h
  cases frames with
  | nil => exact ⟨alike_reverse_append new roots, .nil⟩
  | cons first rest =>
      exact ⟨roots, .cons ⟨first.block, alike_reverse_append new first.children⟩ rest⟩

theorem alike_close? (kind : Kind) (roots : Markup.Alike root.reverse root'.reverse)
    (left : Markup.Alike pending.reverse pending'.reverse)
    (frames : List.Forall₂ Frame.Alike fs gs) :
    Option.Rel Alike (close? kind root pending fs) (close? kind root' pending' gs) := by
  induction frames generalizing pending pending' with
  | nil => exact .none
  | @cons f g fs gs first rest ih =>
      have children := alike_reverse_append left first.children
      rw [close?, close?, first.block]
      split
      · refine .some (Alike.append ⟨roots, rest⟩ ?_)
        rw [List.reverse_singleton, List.reverse_singleton]
        exact .node g.block children
      · exact ih children

/-- Every step keeps this. -/
theorem Alike.step (h : Alike b c) (step : Step) : Alike (b.step step) (c.step step) := by
  cases step with
  | leaf node => exact h.append (.refl _)
  | opens block => exact ⟨h.root, .cons ⟨rfl, .refl _⟩ h.frames⟩
  | closes kind source =>
      have closed := alike_close? kind h.root (Markup.Alike.refl [].reverse) h.frames
      have stray : Alike (b.append [.blank source]) (c.append [.blank source]) :=
        h.append (.refl _)
      rw [Builder.step, Builder.step]
      generalize close? kind b.root [] b.frames = left at closed ⊢
      generalize close? kind c.root [] c.frames = right at closed ⊢
      cases closed with
      | none => exact stray
      | some both => exact both

theorem Alike.foldl (h : Alike b c) (steps : List Step) :
    Alike (steps.foldl Builder.step b) (steps.foldl Builder.step c) := by
  induction steps generalizing b c with
  | nil => exact h
  | cons step steps ih => exact ih (h.step step)

theorem alike_unwind (roots : Markup.Alike root.reverse root'.reverse)
    (left : Markup.Alike pending.reverse pending'.reverse)
    (frames : List.Forall₂ Frame.Alike fs gs) :
    Markup.Alike (unwind root pending fs) (unwind root' pending' gs) := by
  induction frames generalizing pending pending' with
  | nil =>
      rw [unwind, unwind]
      exact alike_reverse_append left roots
  | cons first rest ih => exact ih (alike_reverse_append left first.children)

theorem Alike.finish (h : Alike b c) : Markup.Alike b.finish c.finish :=
  alike_unwind h.root (.refl _) h.frames

end Builder

/-! ## Segments that are put together -/

open Builder in
/-- A text in front prints the same, whether it is one with the text behind it or not. -/
theorem alike_addText {b c : Builder} (h : b.Alike c) (s : List Char) (segs : List Segment) :
    (((addText s segs).map Segment.step).foldl step b).Alike
      ((segs.map Segment.step).foldl step (append [.text (String.ofList s)] c)) := by
  rcases addText_cases s segs with ⟨t, later, rfl, joined⟩ | apart
  · rw [joined, List.map_cons, List.map_cons, List.foldl_cons, List.foldl_cons]
    refine Builder.Alike.foldl ?_ _
    rw [Segment.step, Segment.step, Builder.step, Builder.step, append_append]
    exact h.append (Alike.text_append s t)
  · rw [apart, textSegments]
    split
    · rename_i none
      have unchanged : (append [] b).Alike (append [.text (String.ofList s)] c) :=
        h.append (none ▸ Alike.text_nil.symm)
      rw [append_nil] at unchanged
      exact unchanged.foldl _
    · exact (h.append (.refl _)).foldl _

theorem alike_fuse {b c : Builder} (h : b.Alike c) (segs : List Segment) :
    Alike (((fuse segs).map Segment.step).foldl Builder.step b).finish
      ((segs.map Segment.step).foldl Builder.step c).finish := by
  induction segs generalizing b c with
  | nil => exact h.finish
  | cons seg segs ih =>
      cases seg with
      | tag body => exact ih (h.step _)
      | text s =>
          have joined := alike_addText h s (fuse segs)
          exact joined.finish.trans (ih (.refl _))

/-- Segments put together print what they print one by one. -/
theorem alike_parse {segs : List Segment} (h : Splits segs) :
    Alike (parse (String.ofList (segs.flatMap Segment.source)))
      (ofSteps (segs.map Segment.step)) := by
  rw [parse, String.toList_ofList, segments_flatMap h]
  exact alike_fuse (.refl _) segs

end MinuteBook.Markup
