import MinuteBook.Proofs.Markup.Pairs

/-!
# What tags that stand alone leave

An opening tag that no closing tag ends leaves nothing in the tree, and a closing tag that finds no
block of its kind leaves a blank. So the tree of any steps is that of steps in which every closing
tag ends the innermost block (`ofSteps_settled`, `Fate.nested_settled`).

The two trees are built side by side. The blocks that will be given up are open in the first only;
their children are in the block around them in the second (`Thinned`). Steps of either sort keep
this, and at the end the first tree gives up what the second has never opened
(`Fate.finish_settled`).
-/

namespace MinuteBook.Markup

/-! ## Settled steps -/

/-- What a step leaves. A marked step stays as it is. -/
def settle : Step × Bool → Option Step
  | (step, true) => some step
  | (.closes _ source, false) => some (.leaf (.blank source))
  | (_, false) => none

/-- The steps that are left. -/
def settled (steps : List (Step × Bool)) : List Step := steps.filterMap settle

section

variable {opened : List (Kind × Bool)} {steps : List (Step × Bool)}

@[simp] theorem settled_nil : settled [] = [] := rfl

@[simp] theorem settled_marked (step : Step) (steps : List (Step × Bool)) :
    settled ((step, true) :: steps) = step :: settled steps := rfl

@[simp] theorem settled_given_up (block : Opening) (steps : List (Step × Bool)) :
    settled ((.opens block, false) :: steps) = settled steps := rfl

@[simp] theorem settled_stray (kind : Kind) (source : String) (steps : List (Step × Bool)) :
    settled ((.closes kind source, false) :: steps) = .leaf (.blank source) :: settled steps := rfl

/-- Among the settled steps every closing tag finds its block innermost. -/
theorem Fate.nested_settled (h : Fate opened steps) :
    Nested ((opened.filter Prod.snd).map Prod.fst) (settled steps) := by
  induction h with
  | done left =>
      rw [filter_marked_eq_nil left]
      exact .done
  | leaf _ ih => exact .leaf ih
  | @opens _ _ block ended _ ih =>
      cases ended with
      | true => exact .opens ih
      | false => exact ih
  | @closes inner outer _ kind _ left _ ih =>
      have none : inner.filter Prod.snd = [] := filter_marked_eq_nil fun b hb => (left b hb).2
      rw [List.filter_append, none, List.nil_append, List.filter_cons_of_pos rfl]
      exact .closes ih
  | stray _ _ ih => exact .leaf ih

end

/-! ## Building both trees -/

namespace Builder

/-- A tree under construction and the same without its unmarked blocks: their children are in the
blocks around them. -/
inductive Thinned : List (Kind × Bool) → Builder → Builder → Prop
  | done {root : List Node} : Thinned [] ⟨root, []⟩ ⟨root, []⟩
  | keep {opened : List (Kind × Bool)} {root root' : List Node} {frames frames' : List Frame}
      (f : Frame) (outer : Thinned opened ⟨root, frames⟩ ⟨root', frames'⟩) :
      Thinned ((f.block.kind, true) :: opened) ⟨root, f :: frames⟩ ⟨root', f :: frames'⟩
  | drop {opened : List (Kind × Bool)} {root : List Node} {frames : List Frame} {c : Builder}
      (f : Frame) (outer : Thinned opened ⟨root, frames⟩ c) :
      Thinned ((f.block.kind, false) :: opened) ⟨root, f :: frames⟩ (append f.children c)

namespace Thinned

variable {opened inner outer : List (Kind × Bool)} {b c : Builder} {pending : List Node}
  {kind : Kind}

theorem append (h : Thinned opened b c) (nodes : List Node) :
    Thinned opened (append nodes b) (append nodes c) := by
  cases h with
  | done => exact .done
  | keep f outer => exact .keep { f with children := nodes ++ f.children } outer
  | @drop _ _ _ c f outer =>
      rw [append_append]
      exact .drop { f with children := nodes ++ f.children } outer

theorem opens (h : Thinned opened b c) (block : Opening) :
    Thinned ((block.kind, true) :: opened) (b.step (.opens block)) (c.step (.opens block)) :=
  .keep ⟨block, []⟩ h

/-- A block that will be given up is not opened in the second tree. -/
theorem skips (h : Thinned opened b c) (block : Opening) :
    Thinned ((block.kind, false) :: opened) (b.step (.opens block)) c := by
  have skipped := Thinned.drop ⟨block, []⟩ h
  rwa [append_nil] at skipped

/-- A closing tag gives up the unmarked blocks inside the one that it ends; in the second tree that
one is innermost. -/
theorem closes (h : Thinned (inner ++ (kind, true) :: outer) b c)
    (left : ∀ x ∈ inner, x.1 ≠ kind ∧ x.2 = false) (source : String) :
    ∃ b', close? kind b.root pending b.frames = some b' ∧
      Thinned outer b' ((Builder.append pending c).step (.closes kind source)) := by
  -- By the blocks that are given up; `pending` takes up their children one block after another.
  induction inner generalizing b c pending with
  | nil =>
      cases h with
      | keep f outer =>
          refine ⟨_, by rw [close?, if_pos rfl], ?_⟩
          rw [Builder.append, step, close?, if_pos rfl]
          exact outer.append _
  | cons x inner ih =>
      obtain ⟨other, lost⟩ := left x List.mem_cons_self
      cases h with
      | keep f outer => exact absurd lost (by simp)
      | drop f outer =>
          rw [append_append, close?, if_neg other]
          exact ih outer fun x hx => left x (List.mem_cons_of_mem _ hx)

theorem close?_eq_none (h : Thinned opened b c) (others : ∀ x ∈ opened, x.1 ≠ kind) :
    close? kind b.root pending b.frames = none := by
  induction h generalizing pending with
  | done => rfl
  | keep f _ ih =>
      rw [List.forall_mem_cons] at others
      rw [close?, if_neg others.1]
      exact ih others.2
  | drop f _ ih =>
      rw [List.forall_mem_cons] at others
      rw [close?, if_neg others.1]
      exact ih others.2

/-- At the end the unmarked blocks are given up. -/
theorem finish (h : Thinned opened b c) (left : ∀ x ∈ opened, x.2 = false) :
    unwind b.root pending b.frames = (Builder.append pending c).finish := by
  induction h generalizing pending with
  | done => rfl
  | keep f _ _ => exact absurd (List.forall_mem_cons.1 left).1 (by simp)
  | drop f _ ih =>
      rw [append_append]
      exact ih (List.forall_mem_cons.1 left).2

end Thinned

end Builder

/-- Steps and what is left of them build the same tree, if the blocks that will be given up are open
in the first only. -/
theorem Fate.finish_settled {opened : List (Kind × Bool)} {steps : List (Step × Bool)}
    {b c : Builder} (h : Fate opened steps) (thinned : b.Thinned opened c) :
    ((steps.map Prod.fst).foldl Builder.step b).finish =
      ((settled steps).foldl Builder.step c).finish := by
  induction h generalizing b c with
  | done left =>
      have ends : b.finish = (Builder.append [] c).finish := thinned.finish left
      rw [Builder.append_nil] at ends
      exact ends
  | @leaf _ _ node _ ih => exact ih (thinned.append [node])
  | @opens _ _ block ended _ ih =>
      cases ended with
      | true => exact ih (thinned.opens block)
      | false => exact ih (thinned.skips block)
  | @closes _ _ _ kind source left _ ih =>
      obtain ⟨b', closed, after⟩ := thinned.closes left source
      rw [Builder.append_nil] at after
      rw [List.map_cons, List.foldl_cons, Builder.step, closed]
      exact ih after
  | @stray _ _ kind source none _ ih =>
      rw [List.map_cons, List.foldl_cons, Builder.step, thinned.close?_eq_none none]
      exact ih (thinned.append [.blank source])

/-- The tree of steps is that of what is left of them. -/
theorem ofSteps_settled (steps : List Step) : ofSteps (settled (marked steps)) = ofSteps steps := by
  have start : Builder.Thinned [] .empty .empty := .done
  have both := (fate_marked steps).finish_settled start
  rw [map_fst_marked] at both
  exact both.symm

end MinuteBook.Markup
