import MinuteBook.Proofs.Markup.Alike
import MinuteBook.Proofs.Markup.Settled

/-!
# Tags without a partner do nothing

A tag of a block that stands alone, an opening one that no closing tag ends or a closing one that
finds no block of its kind, may be deleted from a template (`repair`): every tag that is left has
its partner, and the template prints the same (`render_repair`).

The tree of the template is that of its settled steps, and of these the steps that are kept differ
in blanks only, which print nothing (`alike_settled`).
-/

namespace MinuteBook.Markup

/-- The segments of a template but for the tags that stand alone. -/
def keptSegments (segs : List Segment) : List Segment :=
  (segs.zipIdx.filter fun x => ¬ Lone (pairs (segs.map Segment.step)) x.1.step x.2).map Prod.fst

/-- The template without the tags that stand alone. -/
def repair (template : String) : String :=
  String.ofList ((keptSegments (segments template.toList)).flatMap Segment.source)

theorem sublist_keptSegments (segs : List Segment) : (keptSegments segs).Sublist segs := by
  have sub := (List.filter_sublist (l := segs.zipIdx)
    (p := fun x => ¬ Lone (pairs (segs.map Segment.step)) x.1.step x.2)).map Prod.fst
  rwa [List.zipIdx_map_fst] at sub

theorem step_keptSegments (segs : List Segment) :
    (keptSegments segs).map Segment.step = kept (marked (segs.map Segment.step)) := by
  rw [keptSegments, kept, marked, List.zipIdx_map, List.map_map, List.map_map, List.filter_map,
    List.map_map]
  rfl

/-! ## Blanks print nothing -/

/-- Settled steps and those that are kept build trees that print the same. -/
theorem alike_settled {b c : Builder} (same : b.Alike c) (steps : List (Step × Bool)) :
    Alike ((settled steps).foldl Builder.step b).finish
      ((kept steps).foldl Builder.step c).finish := by
  induction steps generalizing b c with
  | nil => exact same.finish
  | cons x steps ih =>
      obtain ⟨step, mark⟩ := x
      cases mark with
      | true => exact ih (same.step step)
      | false =>
          cases step with
          | leaf node => exact ih same
          | opens block => exact ih same
          | closes kind source =>
              have silent : (Builder.append [.blank source] b).Alike (Builder.append [] c) :=
                same.append (Alike.blank source)
              rw [Builder.append_nil] at silent
              exact ih silent

theorem alike_kept (steps : List Step) : Alike (ofSteps steps) (ofSteps (kept (marked steps))) := by
  rw [← ofSteps_settled]
  exact alike_settled (.refl .empty) (marked steps)

/-- In the repaired template every tag has its partner, and it prints the same. -/
theorem render_repair (template : String) :
    Matched ((segments (repair template).toList).map Segment.step) ∧
      ∀ filters s, render filters (repair template) s = render filters template s := by
  have split : Splits (keptSegments (segments template.toList)) :=
    (splits_segments _).sublist (sublist_keptSegments _)
  constructor
  · rw [matched_iff_nested, repair, String.toList_ofList, segments_flatMap split]
    apply nested_fuse
    rw [step_keptSegments]
    exact (fate_marked _).nested_kept
  · intro filters s
    have pieces := alike_parse split
    rw [step_keptSegments] at pieces
    have same : Alike (parse (repair template)) (parse template) :=
      pieces.trans (alike_kept _).symm
    rw [render, render, same filters s]

example : repair ("\x7b\x7b#if a\x7d\x7db\x7b\x7b#each c\x7d\x7d-\x7b\x7b/if\x7d\x7d" ++
    "\x7b\x7b/each\x7d\x7d") = "\x7b\x7b#if a\x7d\x7db-\x7b\x7b/if\x7d\x7d" := by
  decide +kernel

end MinuteBook.Markup
