import MinuteBook.Proofs.Markup.Pairs
import MinuteBook.Proofs.Markup.RoundTrip

/-!
# Trees inside trees

The tree of nested steps is built the same under any open blocks (`Builder.foldl_nested`), as no
closing tag among them reaches beyond the blocks that they open. So it comes before the tree of
whatever steps follow (`ofSteps_append`), and between the two tags of a block it is what the block
holds (`ofSteps_block`). Behind nodes that are finished any steps build what they build alone, and a
leaf behind any steps stands at the end of their tree (`ofSteps_concat_leaf`).
-/

namespace MinuteBook.Markup

namespace Builder

variable {b l : Builder} {root pending : List Node} {frames : List Frame} {steps : List Step}

/-- The blocks of one tree under construction inside the open blocks of another. -/
def graft (b l : Builder) : Builder :=
  ⟨(append l.root b).root, l.frames ++ (append l.root b).frames⟩

/-- The kinds of the open blocks, the innermost first. -/
def kinds (b : Builder) : List Kind := b.frames.map fun f => f.block.kind

@[simp] theorem kinds_append (nodes : List Node) (b : Builder) :
    (append nodes b).kinds = b.kinds := by
  obtain ⟨root, frames⟩ := b
  cases frames <;> rfl

theorem graft_of_closed (b : Builder) (root : List Node) : graft b ⟨root, []⟩ = append root b := rfl

theorem graft_append (nodes : List Node) (b l : Builder) :
    graft b (append nodes l) = append nodes (graft b l) := by
  obtain ⟨root, frames⟩ := l
  cases frames with
  | nil => exact (append_append b root nodes).symm
  | cons f fs => rfl

/-- A closing tag finds its block in the inner tree, if there is one or if no others are open. -/
theorem close?_graft {kind : Kind} (h : b.frames = [] ∨ kind ∈ kinds ⟨root, frames⟩) :
    close? kind (graft b ⟨root, frames⟩).root pending (graft b ⟨root, frames⟩).frames =
      (close? kind root pending frames).map (graft b) := by
  -- The search ends inside the inner tree, so it never comes to the blocks around it.
  induction frames generalizing pending with
  | nil =>
      have none : b.frames = [] := by simpa [kinds] using h
      obtain ⟨under, _⟩ := b
      subst none
      rfl
  | cons f frames ih =>
      rw [graft, List.cons_append, close?, close?]
      by_cases same : f.block.kind = kind
      · rw [if_pos same, if_pos same, Option.map_some, graft_append]
        rfl
      · rw [if_neg same, if_neg same]
        refine ih (h.imp_right fun member => ?_)
        rcases List.mem_cons.1 member with here | later
        · exact absurd here.symm same
        · exact later

theorem step_graft {step : Step}
    (h : b.frames = [] ∨ ∀ kind source, step = .closes kind source → kind ∈ l.kinds) :
    (graft b l).step step = graft b (l.step step) := by
  cases step with
  | leaf node => exact (graft_append [node] b l).symm
  | opens block => rfl
  | closes kind source =>
      rw [Builder.step, Builder.step,
        close?_graft (h.imp_right fun found => found kind source rfl)]
      cases close? kind l.root [] l.frames with
      | none => exact (graft_append _ b l).symm
      | some closed => rfl

/-- Nested steps close blocks that are open in the tree itself. -/
theorem nested_step {step : Step} (h : Nested l.kinds (step :: steps)) :
    (∀ kind source, step = .closes kind source → kind ∈ l.kinds) ∧
      Nested (l.step step).kinds steps := by
  obtain ⟨root, frames⟩ := l
  generalize same : kinds ⟨root, frames⟩ = opened at h
  cases h with
  | leaf rest =>
      refine ⟨by simp, ?_⟩
      rw [Builder.step, kinds_append, same]
      exact rest
  | opens rest =>
      refine ⟨by simp, ?_⟩
      rw [← same] at rest
      exact rest
  | closes rest =>
      cases frames with
      | nil => exact absurd same (by simp [kinds])
      | cons f frames =>
          obtain ⟨rfl, rfl⟩ := List.cons.inj same
          refine ⟨?_, ?_⟩
          · rintro kind source ⟨⟩
            exact List.mem_cons_self
          · rw [Builder.step, close?, if_pos rfl, Option.getD_some, kinds_append]
            exact rest

theorem foldl_graft (h : b.frames = [] ∨ Nested l.kinds steps) :
    steps.foldl Builder.step (graft b l) = graft b (steps.foldl Builder.step l) := by
  induction steps generalizing l with
  | nil => rfl
  | cons step steps ih =>
      rw [List.foldl_cons, List.foldl_cons, step_graft (h.imp_right fun nested =>
        (nested_step nested).1), ih (h.imp_right fun nested => (nested_step nested).2)]

theorem frames_foldl (h : Nested l.kinds steps) : (steps.foldl Builder.step l).frames = [] := by
  induction steps generalizing l with
  | nil =>
      generalize same : l.kinds = opened at h
      cases h
      exact List.map_eq_nil_iff.1 same
  | cons step steps ih => exact ih (nested_step h).2

/-- Nested steps add their tree to the innermost open block, whatever blocks are open. -/
theorem foldl_nested (h : Nested [] steps) (b : Builder) :
    steps.foldl Builder.step b = append (ofSteps steps).reverse b := by
  have inside := foldl_graft (b := b) (l := empty) (.inr h)
  have start : graft b empty = b := append_nil b
  have closed := frames_foldl (l := empty) h
  rw [start] at inside
  rw [inside, ofSteps]
  generalize steps.foldl Builder.step empty = l at closed ⊢
  obtain ⟨root, frames⟩ := l
  subst closed
  rw [graft_of_closed, finish, unwind, List.reverse_reverse, List.nil_append]

theorem unwind_append (root under pending : List Node) (frames : List Frame) :
    unwind (root ++ under) pending frames = under.reverse ++ unwind root pending frames := by
  induction frames generalizing pending with
  | nil => simp [unwind]
  | cons f frames ih => exact ih (pending ++ f.children)

theorem finish_graft (under : List Node) (l : Builder) :
    finish (graft ⟨under, []⟩ l) = under.reverse ++ finish l := by
  obtain ⟨root, frames⟩ := l
  rw [graft, append, finish, List.append_nil]
  exact unwind_append root under [] frames

theorem unwind_append_pending (root nodes pending : List Node) (frames : List Frame) :
    unwind root (nodes ++ pending) frames = unwind root pending frames ++ nodes.reverse := by
  induction frames generalizing pending with
  | nil => simp [unwind]
  | cons f frames ih => rw [unwind, unwind, List.append_assoc, ih]

/-- What is appended last stands at the end of the tree, even inside a block that is still open. -/
theorem finish_append_last (nodes : List Node) (b : Builder) :
    (append nodes b).finish = b.finish ++ nodes.reverse := by
  obtain ⟨root, frames⟩ := b
  cases frames with
  | nil => simp [append, finish, unwind]
  | cons f frames =>
      rw [append, finish, finish, unwind, unwind, List.nil_append, List.nil_append]
      exact unwind_append_pending root nodes f.children frames

end Builder

section

variable {first : List Step}

/-- The tree of nested steps comes before the tree of any steps behind them. -/
theorem ofSteps_append (h : Nested [] first) (steps : List Step) :
    ofSteps (first ++ steps) = ofSteps first ++ ofSteps steps := by
  have behind : steps.foldl Builder.step (Builder.graft ⟨(ofSteps first).reverse, []⟩ .empty) =
      Builder.graft ⟨(ofSteps first).reverse, []⟩ (steps.foldl Builder.step .empty) :=
    Builder.foldl_graft (.inl rfl)
  have start : Builder.append (ofSteps first).reverse .empty =
      Builder.graft ⟨(ofSteps first).reverse, []⟩ .empty := by
    simp [Builder.append, Builder.graft, Builder.empty]
  rw [ofSteps, List.foldl_append, Builder.foldl_nested h, start, behind, Builder.finish_graft,
    List.reverse_reverse]
  rfl

/-- A leaf behind any steps stands behind their tree. -/
theorem ofSteps_concat_leaf (steps : List Step) (node : Node) :
    ofSteps (steps ++ [.leaf node]) = ofSteps steps ++ [node] := by
  rw [ofSteps, List.foldl_append]
  exact Builder.finish_append_last [node] _

/-- Nested steps between two tags of a block are the block with their tree as its children. -/
theorem ofSteps_block (h : Nested [] first) (block : Opening) (source : String) :
    ofSteps (.opens block :: (first ++ [.closes block.kind source])) =
      [block.node (ofSteps first)] := by
  rw [ofSteps, List.foldl_cons, List.foldl_append, Builder.foldl_nested h, List.foldl_cons,
    List.foldl_nil, Builder.close_append]
  exact Builder.finish_append [block.node (ofSteps first)]

end

end MinuteBook.Markup
