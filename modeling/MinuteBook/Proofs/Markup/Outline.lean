import MinuteBook.Proofs.Markup.Grafting
import MinuteBook.Proofs.Markup.Settled
import MinuteBook.Proofs.Markup.Walk

/-!
# Every segment is found in the tree

A walk through the tree of a template meets what the segments leave there, one after another: a text
or the expression of a tag is a leaf, the two tags of a block are met on entering and on leaving it,
an opening tag that no closing tag ends leaves nothing, and a closing tag that finds no block of its
kind leaves a blank (`visits_parse`). So the leaves and the blocks of the tree account for the
segments (`parse_accounts`).

What has been met so far is a list at every stage of the building (`Builder.visits`), and each of
the settled steps adds what it leaves at the end of that list (`Builder.visits_step`).
-/

namespace MinuteBook.Markup

/-! ## The walk so far -/

/-- What a step adds to the walk. -/
def Step.visits : Step → List Visit
  | .leaf node => node.visits
  | .opens block => [.enter block]
  | .closes kind _ => [.leave kind]

/-- The walk through an open block. -/
def Frame.visits (f : Frame) : List Visit := .enter f.block :: visitsAll f.children.reverse

namespace Builder

variable {b : Builder} {steps : List Step}

/-- The walk through a tree under construction, which ends inside the innermost open block. -/
def visits (b : Builder) : List Visit :=
  visitsAll b.root.reverse ++ b.frames.reverse.flatMap Frame.visits

theorem visits_append (nodes : List Node) (b : Builder) :
    (append nodes b).visits = b.visits ++ visitsAll nodes.reverse := by
  obtain ⟨root, frames⟩ := b
  cases frames with
  | nil => simp [append, visits]
  | cons f fs => simp [append, visits, Frame.visits]

theorem visits_step {step : Step} (h : Nested b.kinds (step :: steps)) :
    (b.step step).visits = b.visits ++ step.visits := by
  cases step with
  | leaf node => simp [Builder.step, Step.visits, visits_append]
  | opens block => simp [Builder.step, Step.visits, visits, Frame.visits]
  | closes kind source =>
      obtain ⟨root, frames⟩ := b
      generalize same : kinds ⟨root, frames⟩ = opened at h
      -- The block that is closed is the innermost one.
      cases h with
      | closes rest =>
          cases frames with
          | nil => exact absurd same (by simp [kinds])
          | cons f frames =>
              obtain ⟨rfl, -⟩ := List.cons.inj same
              rw [Builder.step, close?, if_pos rfl, Option.getD_some, visits_append]
              simp [visits, Frame.visits, Step.visits]

theorem visits_foldl (h : Nested b.kinds steps) :
    (steps.foldl Builder.step b).visits = b.visits ++ steps.flatMap Step.visits := by
  induction steps generalizing b with
  | nil => simp
  | cons step steps ih =>
      rw [List.foldl_cons, ih (nested_step h).2, visits_step h, List.flatMap_cons,
        List.append_assoc]

end Builder

/-- A walk through the tree of nested steps goes the way of the steps. -/
theorem visits_ofSteps {steps : List Step} (h : Nested [] steps) :
    visitsAll (ofSteps steps) = steps.flatMap Step.visits := by
  have way := Builder.visits_foldl (b := .empty) h
  have closed := Builder.frames_foldl (l := .empty) h
  rw [ofSteps]
  generalize steps.foldl Builder.step .empty = b at way closed ⊢
  obtain ⟨root, frames⟩ := b
  subst closed
  simpa [Builder.visits, Builder.finish, Builder.unwind, Builder.empty] using way

/-! ## What the segments leave -/

/-- What a step at a place leaves to be met, where the pairs are those of all steps. -/
def met (pairs : List (Nat × Nat)) : Step × Nat → Option Visit
  | (.leaf node, _) => some (.leaf node)
  | (.opens block, place) => if place ∈ pairs.map Prod.fst then some (.enter block) else none
  | (.closes kind source, place) =>
    if place ∈ pairs.map Prod.snd then some (.leave kind) else some (.leaf (.blank source))

/-- What a step at a place leaves as a leaf. -/
def leafAt (pairs : List (Nat × Nat)) : Step × Nat → Option Node
  | (.leaf node, _) => some node
  | (.opens _, _) => none
  | (.closes _ source, place) => if place ∈ pairs.map Prod.snd then none else some (.blank source)

/-- What a step at a place leaves as a block. -/
def blockAt (pairs : List (Nat × Nat)) : Step × Nat → Option Opening
  | (.leaf _, _) => none
  | (.opens block, place) => if place ∈ pairs.map Prod.fst then some block else none
  | (.closes _ _, _) => none

theorem eq_leafOf_of_tagStep {body : List Char} {node : Node} (h : tagStep body = .leaf node) :
    node = leafOf body := by
  simp only [tagStep] at h
  split at h
  · exact absurd h (by simp)
  · split at h
    · exact absurd h (by simp)
    · split at h
      · exact absurd h (by simp)
      · split at h
        · exact absurd h (by simp)
        · exact (Step.leaf.inj h).symm

/-- The leaves that segments leave have no children. -/
theorem Segment.visits_leaf {seg : Segment} {node : Node} (h : seg.step = .leaf node) :
    node.visits = [.leaf node] := by
  cases seg with
  | text s =>
      obtain rfl := Step.leaf.inj h
      rfl
  | tag body =>
      rw [eq_leafOf_of_tagStep h, leafOf]
      split <;> rfl

/-- What is left of marked steps is met, each at its place. -/
theorem visits_settled (pairs : List (Nat × Nat)) {places : List (Step × Nat)}
    (single : ∀ x ∈ places, ∀ node, x.1 = .leaf node → node.visits = [.leaf node]) :
    (settled (places.map (markStep pairs))).flatMap Step.visits =
      places.filterMap (met pairs) := by
  induction places with
  | nil => rfl
  | cons x places ih =>
      rw [List.forall_mem_cons] at single
      obtain ⟨step, place⟩ := x
      have rest := ih single.2
      cases step with
      | leaf node =>
          have alone := single.1 node rfl
          simp [markStep, Lone, met, Step.visits, alone, rest]
      | opens block =>
          by_cases ended : place ∈ pairs.map Prod.fst <;>
            simp [markStep, Lone, met, ended, Step.visits, rest, -List.mem_map]
      | closes kind source =>
          by_cases found : place ∈ pairs.map Prod.snd <;>
            simp [markStep, Lone, met, found, Step.visits, Node.visits, rest, -List.mem_map]

/-- A walk through the tree of segments meets what they leave, in their order. -/
theorem visits_segments (segs : List Segment) :
    visitsAll (ofSteps (segs.map Segment.step)) =
      (segs.map Segment.step).zipIdx.filterMap (met (pairs (segs.map Segment.step))) := by
  generalize made : segs.map Segment.step = steps
  have single : ∀ x ∈ steps.zipIdx, ∀ node, x.1 = .leaf node → node.visits = [.leaf node] := by
    intro x inside node leaf
    have step : x.1 ∈ steps := by
      rw [← List.zipIdx_map_fst 0 steps]
      exact List.mem_map_of_mem inside
    rw [← made] at step
    obtain ⟨seg, -, same⟩ := List.mem_map.1 step
    exact Segment.visits_leaf (same.trans leaf)
  rw [← ofSteps_settled, visits_ofSteps (fate_marked steps).nested_settled]
  exact visits_settled (pairs steps) single

/-- A walk through the tree of a template meets what its segments leave. -/
theorem visits_parse (template : String) :
    visitsAll (parse template) =
      ((segments template.toList).map Segment.step).zipIdx.filterMap
        (met (pairs ((segments template.toList).map Segment.step))) :=
  visits_segments _

/-- What a step may leave to be met, whatever the other steps are. -/
inductive Step.MayLeave : Step → Visit → Prop
  | leaf (node : Node) : MayLeave (.leaf node) (.leaf node)
  | enter (block : Opening) : MayLeave (.opens block) (.enter block)
  | leave (kind : Kind) (source : String) : MayLeave (.closes kind source) (.leave kind)
  | blank (kind : Kind) (source : String) : MayLeave (.closes kind source) (.leaf (.blank source))

theorem mayLeave_of_met {pairs : List (Nat × Nat)} {step : Step} {place : Nat} {v : Visit}
    (h : met pairs (step, place) = some v) : step.MayLeave v := by
  cases step with
  | leaf node =>
      obtain rfl := Option.some.inj h
      exact .leaf node
  | opens block =>
      rw [met] at h
      split at h
      · obtain rfl := Option.some.inj h
        exact .enter block
      · exact absurd h (by simp)
  | closes kind source =>
      rw [met] at h
      split at h
      · obtain rfl := Option.some.inj h
        exact .leave kind source
      · obtain rfl := Option.some.inj h
        exact .blank kind source

/-- Whatever is met has been left by a segment. -/
theorem exists_segment_of_visit {segs : List Segment} {v : Visit}
    (h : v ∈ visitsAll (ofSteps (segs.map Segment.step))) :
    ∃ seg ∈ segs, seg.step.MayLeave v := by
  rw [visits_segments, List.mem_filterMap] at h
  obtain ⟨⟨step, place⟩, inside, left⟩ := h
  have step : step ∈ segs.map Segment.step := by
    rw [← List.zipIdx_map_fst 0 (segs.map Segment.step)]
    exact List.mem_map_of_mem inside
  obtain ⟨seg, member, rfl⟩ := List.mem_map.1 step
  exact ⟨seg, member, mayLeave_of_met left⟩

theorem leaf?_met (pairs : List (Nat × Nat)) (x : Step × Nat) :
    (met pairs x).bind Visit.leaf? = leafAt pairs x := by
  match x with
  | (.leaf node, place) => rfl
  | (.opens block, place) =>
      rw [met, leafAt]
      split <;> rfl
  | (.closes kind source, place) =>
      rw [met, leafAt]
      split <;> rfl

theorem entered?_met (pairs : List (Nat × Nat)) (x : Step × Nat) :
    (met pairs x).bind Visit.entered? = blockAt pairs x := by
  match x with
  | (.leaf node, place) => rfl
  | (.opens block, place) =>
      rw [met, blockAt]
      split <;> rfl
  | (.closes kind source, place) =>
      rw [met, blockAt]
      split <;> rfl

/-- The segments make up the template, and the tree accounts for each of them once. Its leaves are
the texts, the expressions and blanks of the tags that belong to no block, and a blank for each
closing tag that finds no block of its kind. Its blocks are those of the opening tags that a closing
tag ends. Both stand in the order of the segments. -/
theorem parse_accounts (template : String) :
    let segs := segments template.toList
    let steps := segs.map Segment.step
    segs.flatMap Segment.source = template.toList ∧ .text [] ∉ segs ∧
      leaves (parse template) = steps.zipIdx.filterMap (leafAt (pairs steps)) ∧
      blocks (parse template) = steps.zipIdx.filterMap (blockAt (pairs steps)) := by
  intro segs steps
  have way : visitsAll (parse template) = steps.zipIdx.filterMap (met (pairs steps)) :=
    visits_parse template
  refine ⟨source_segments _, text_nil_not_mem_segments _, ?_, ?_⟩
  · rw [leaves, way, List.filterMap_filterMap, funext (leaf?_met _)]
  · rw [blocks, way, List.filterMap_filterMap, funext (entered?_met _)]

/-- The second block is never ended, so its child is a child of the first. -/
example :
    let steps : List Step := [.opens (.each "a"), .leaf (.text "x"), .opens (.when (.truthy "b")),
      .leaf (.text "y"), .closes .each "", .closes .when "z"]
    pairs steps = [(0, 4)] ∧ leaves (ofSteps steps) = [.text "x", .text "y", .blank "z"] ∧
      blocks (ofSteps steps) = [.each "a"] :=
  ⟨rfl, rfl, rfl⟩

end MinuteBook.Markup
