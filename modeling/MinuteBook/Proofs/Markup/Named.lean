import MinuteBook.Proofs.Markup.Outline
import MinuteBook.Proofs.Store.Agreement

/-!
# A text shows what its template names

The tags of a template name paths, and a path begins with the key of an answer (`paths`, `keys`).
What is printed depends on the answers under these keys and on no others (`render_congr_keys`).

Two stores are printed side by side. Inside a block that repeats its children both hold the same
item, so the stores still agree on the paths of the template (`Store.AgreeOn.set`). The paths that
are met in the tree are paths in the tags (`mem_paths_of_visit`).
-/

namespace MinuteBook.Markup

open Store (AgreeOn)

variable {s t : Store} {inScope : String → Prop}

/-! ## Paths -/

/-- The paths that a leaf names. -/
def Node.leafPaths : Node → List String
  | .expression e => e.paths
  | _ => []

/-- The path that a block reads. -/
def Opening.path : Opening → String
  | .when test => test.path
  | .each path => path

/-- The paths of what is met on a walk through a tree. -/
def Visit.paths : Visit → List String
  | .leaf node => node.leafPaths
  | .enter block => [block.path]
  | .leave _ => []

/-- The paths in a text or a tag. -/
def Step.paths : Step → List String
  | .leaf node => node.leafPaths
  | .opens block => [block.path]
  | .closes _ _ => []

/-- The paths in the tags of a template. -/
def paths (template : String) : List String :=
  ((segments template.toList).map Segment.step).flatMap Step.paths

/-- The keys with which the paths of a template begin. The path of a tag that cannot be read is
empty and begins with none. -/
def keys (template : String) : List String :=
  ((paths template).map Path.front).filter fun key => key != ""

theorem Step.MayLeave.paths_subset {step : Step} {v : Visit} (h : step.MayLeave v) :
    v.paths ⊆ step.paths := by
  cases h with
  | leaf node => exact List.Subset.refl _
  | enter block => exact List.Subset.refl _
  | leave kind source => exact List.nil_subset _
  | blank kind source => exact List.nil_subset _

/-- What is met in the tree of a template names paths in its tags only. -/
theorem mem_paths_of_visit {template : String} {v : Visit} (h : v ∈ visitsAll (parse template))
    {p : String} (inside : p ∈ v.paths) : p ∈ paths template := by
  obtain ⟨seg, member, left⟩ := exists_segment_of_visit h
  exact List.mem_flatMap.2 ⟨seg.step, List.mem_map_of_mem member, left.paths_subset inside⟩

/-! ## Printing twice -/

mutual

/-- A node prints the same for stores that agree on its paths. -/
theorem Node.render_congr (filters : Filters) (n : Node) {s t : Store} (h : AgreeOn inScope s t)
    (inside : ∀ v ∈ n.visits, ∀ p ∈ v.paths, inScope p) :
    n.render filters s = n.render filters t := by
  match n with
  | .text _ => rw [Node.render, Node.render]
  | .expression e =>
      have own : ∀ p ∈ e.paths, inScope p := inside _ List.mem_cons_self
      rw [Node.render, Node.render, e.render_congr h filters own]
  | .when test children =>
      simp only [Node.visits, List.forall_mem_cons, List.forall_mem_append] at inside
      obtain ⟨own, within, -⟩ := inside
      have tested : inScope test.path := own _ List.mem_cons_self
      rw [Node.render, Node.render, test.holds_congr h tested,
        renderAll_congr filters children h within]
  | .each path children =>
      simp only [Node.visits, List.forall_mem_cons, List.forall_mem_append] at inside
      obtain ⟨own, within, -⟩ := inside
      have read : inScope path := own _ List.mem_cons_self
      have each (item : Value) : renderAll filters children (s.set Store.itemKey item) =
          renderAll filters children (t.set Store.itemKey item) :=
        renderAll_congr filters children (h.set Store.itemKey item) within
      rw [Node.render, Node.render, itemsAt_congr h read, funext each]
  | .blank _ => rw [Node.render, Node.render]

theorem renderAll_congr (filters : Filters) (ns : List Node) {s t : Store}
    (h : AgreeOn inScope s t) (inside : ∀ v ∈ visitsAll ns, ∀ p ∈ v.paths, inScope p) :
    renderAll filters ns s = renderAll filters ns t := by
  match ns with
  | [] => rw [renderAll, renderAll]
  | n :: ns =>
      rw [visitsAll_cons, List.forall_mem_append] at inside
      rw [renderAll_cons, renderAll_cons, Node.render_congr filters n h inside.1,
        renderAll_congr filters ns h inside.2]

end

theorem renderValue_congr (filters : Filters) (template : Value)
    (h : AgreeOn (fun _ => True) s t) :
    renderValue filters template s = renderValue filters template t := by
  cases template with
  | text source =>
      rw [renderValue, renderValue, render, render,
        renderAll_congr filters _ h fun _ _ _ _ => trivial]
  | _ => rfl

/-- A template prints the same for two stores of the same description that hold the same answers
under the keys which the template names, whatever else they hold. -/
theorem render_congr_keys (filters : Filters) (template : String) (same : s.template = t.template)
    (answers : ∀ key ∈ keys template, Record.get? s.values key = Record.get? t.values key) :
    render filters template s = render filters template t := by
  have agree : AgreeOn (· ∈ paths template) s t := by
    refine Store.agreeOn_of_front same fun path inside filled _ => answers _ ?_
    exact List.mem_filter.2 ⟨List.mem_map_of_mem inside, by simpa using filled⟩
  rw [render, render, renderAll_congr filters _ agree fun _ met _ => mem_paths_of_visit met]

/-- For instance, a template of rows and a choice shows nothing of the answer that it does not
name. -/
theorem render_unnamed :
    let template := "\x7b\x7b#each rows\x7d\x7d\x7b\x7bthis.a\x7d\x7d, \x7b\x7b/each\x7d\x7d" ++
      "\x7b\x7bx == 'y' ? z : 'none'\x7d\x7d"
    let store (secret : String) : Store :=
      ⟨[("rows", .list [.mapping [("a", .int 1)], .mapping [("a", .int 2)]]),
        ("secret", .text secret)], []⟩
    keys template = ["rows", "this", "x", "z"] ∧
      render .builtin template (store "one") = render .builtin template (store "two") := by
  intro template store
  have named : keys template = ["rows", "this", "x", "z"] := by decide +kernel
  refine ⟨named, render_congr_keys _ template rfl ?_⟩
  rw [named]
  decide

end MinuteBook.Markup
