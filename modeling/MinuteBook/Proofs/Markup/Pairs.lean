import Mathlib.Data.List.Nodup
import MinuteBook.Markup.Node
import MinuteBook.Proofs.Markup.Seams

/-!
# Which tags belong together

A closing tag ends the innermost open block of its own kind and gives up the blocks that were opened
inside it. So every closing tag either makes a pair with one opening tag or finds no block of its
kind, and an opening tag may be left without a partner as well: `pairs` lists the pairs by the
places of their tags, and `Lone` says which tags stand alone.

`Fate` says the same without places: it marks the open blocks that are ended later on, and the steps
that are not alone. It follows the recursion by which a tree is built, so that is what proofs go by;
`fate_marked` is the link. Where no tag stands alone the steps are `Nested`, and the other way round
(`matched_iff_nested`).
-/

namespace MinuteBook.Markup

/-! ## Pairs -/

/-- The innermost open block of a kind and the blocks around it. Blocks are given by the places of
their opening tags, the innermost first. -/
def innermost? (kind : Kind) : List (Nat × Kind) → Option (Nat × List (Nat × Kind))
  | [] => none
  | (place, k) :: outer => if k = kind then some (place, outer) else innermost? kind outer

/-- The pairs that are made by steps from a place on, while the given blocks are open. -/
def pairsFrom (place : Nat) (opened : List (Nat × Kind)) : List Step → List (Nat × Nat)
  | [] => []
  | .leaf _ :: steps => pairsFrom (place + 1) opened steps
  | .opens block :: steps => pairsFrom (place + 1) ((place, block.kind) :: opened) steps
  | .closes kind _ :: steps =>
    match innermost? kind opened with
    | some (start, outer) => (start, place) :: pairsFrom (place + 1) outer steps
    | none => pairsFrom (place + 1) opened steps

/-- The places of an opening tag and of the closing tag that ends its block. -/
def pairs (steps : List Step) : List (Nat × Nat) := pairsFrom 0 [] steps

/-- The step at a place is a tag of a block, and it is in none of the pairs: it opens a block that
no closing tag ends, or it closes and finds no open block of its kind. -/
def Lone (pairs : List (Nat × Nat)) : Step → Nat → Prop
  | .leaf _, _ => False
  | .opens _, place => place ∉ pairs.map Prod.fst
  | .closes _ _, place => place ∉ pairs.map Prod.snd

instance (pairs : List (Nat × Nat)) : (step : Step) → (place : Nat) →
    Decidable (Lone pairs step place)
  | .leaf _, _ => .isFalse id
  | .opens _, place => inferInstanceAs (Decidable (place ∉ pairs.map Prod.fst))
  | .closes _ _, place => inferInstanceAs (Decidable (place ∉ pairs.map Prod.snd))

/-- Every tag of a block has its partner. -/
def Matched (steps : List Step) : Prop := ∀ x ∈ steps.zipIdx, ¬ Lone (pairs steps) x.1 x.2

section

variable {kind : Kind} {place start : Nat} {opened outer : List (Nat × Kind)} {steps : List Step}
  {p : Nat × Nat}

theorem innermost?_eq_some (h : innermost? kind opened = some (start, outer)) :
    ∃ inner, opened = inner ++ (start, kind) :: outer ∧ ∀ b ∈ inner, b.2 ≠ kind := by
  induction opened with
  | nil => exact absurd h (by simp [innermost?])
  | cons b opened ih =>
      obtain ⟨i, k⟩ := b
      rw [innermost?] at h
      split at h
      · rename_i same
        obtain ⟨rfl, rfl⟩ := Prod.mk.inj (Option.some.inj h)
        exact ⟨[], by rw [same]; rfl, by simp⟩
      · rename_i other
        obtain ⟨inner, rfl, others⟩ := ih h
        exact ⟨(i, k) :: inner, rfl, List.forall_mem_cons.2 ⟨other, others⟩⟩

theorem innermost?_eq_none (h : innermost? kind opened = none) : ∀ b ∈ opened, b.2 ≠ kind := by
  induction opened with
  | nil => simp
  | cons b opened ih =>
      obtain ⟨i, k⟩ := b
      rw [innermost?] at h
      split at h
      · exact absurd h (by simp)
      · rename_i other
        exact List.forall_mem_cons.2 ⟨other, ih h⟩

/-- A pair to come ends a block that is open or will be opened, and ends it later. -/
theorem bounds_of_mem_pairsFrom (h : p ∈ pairsFrom place opened steps) :
    (p.1 ∈ opened.map Prod.fst ∨ place ≤ p.1) ∧ place ≤ p.2 := by
  induction steps generalizing place opened with
  | nil => exact absurd h List.not_mem_nil
  | cons step steps ih =>
      cases step with
      | leaf node =>
          obtain ⟨start, finish⟩ := ih h
          exact ⟨start.imp_right (by omega), by omega⟩
      | opens block =>
          obtain ⟨start, finish⟩ := ih h
          rw [List.map_cons, List.mem_cons] at start
          refine ⟨?_, by omega⟩
          rcases start with (here | old) | later
          · exact .inr (Nat.le_of_eq here.symm)
          · exact .inl old
          · exact .inr (by omega)
      | closes kind source =>
          rw [pairsFrom] at h
          split at h
          · rename_i first outer found
            obtain ⟨inner, rfl, -⟩ := innermost?_eq_some found
            rcases List.mem_cons.1 h with rfl | later
            · exact ⟨.inl (by simp), Nat.le_refl _⟩
            · obtain ⟨start, finish⟩ := ih later
              refine ⟨?_, by omega⟩
              rcases start with old | later
              · exact .inl (by simp [old])
              · exact .inr (by omega)
          · obtain ⟨start, finish⟩ := ih h
            exact ⟨start.imp_right (by omega), by omega⟩

end

/-! ## Fates -/

/-- What becomes of open blocks, the innermost first, and of the steps to come. A block is marked if
a closing tag to come ends it, a step unless it is a tag that stands alone. -/
inductive Fate : List (Kind × Bool) → List (Step × Bool) → Prop
  /-- Blocks that are still open at the end are given up. -/
  | done {opened : List (Kind × Bool)} (left : ∀ b ∈ opened, b.2 = false) : Fate opened []
  | leaf {opened : List (Kind × Bool)} {steps : List (Step × Bool)} {node : Node}
      (rest : Fate opened steps) : Fate opened ((.leaf node, true) :: steps)
  | opens {opened : List (Kind × Bool)} {steps : List (Step × Bool)} {block : Opening}
      {ended : Bool} (rest : Fate ((block.kind, ended) :: opened) steps) :
      Fate opened ((.opens block, ended) :: steps)
  /-- A closing tag gives up the blocks inside the one that it ends. -/
  | closes {inner outer : List (Kind × Bool)} {steps : List (Step × Bool)} {kind : Kind}
      {source : String} (left : ∀ b ∈ inner, b.1 ≠ kind ∧ b.2 = false) (rest : Fate outer steps) :
      Fate (inner ++ (kind, true) :: outer) ((.closes kind source, true) :: steps)
  | stray {opened : List (Kind × Bool)} {steps : List (Step × Bool)} {kind : Kind}
      {source : String} (none : ∀ b ∈ opened, b.1 ≠ kind) (rest : Fate opened steps) :
      Fate opened ((.closes kind source, false) :: steps)

/-- An open block, marked by whether it is ended by one of the pairs. -/
def markBlock (pairs : List (Nat × Nat)) (b : Nat × Kind) : Kind × Bool :=
  (b.2, decide (b.1 ∈ pairs.map Prod.fst))

/-- A step at a place, marked unless it stands alone. -/
def markStep (pairs : List (Nat × Nat)) (x : Step × Nat) : Step × Bool :=
  (x.1, decide (¬ Lone pairs x.1 x.2))

/-- The pairs made so far have to do with blocks that are closed and with tags that are past. -/
structure Past (past : List (Nat × Nat)) (opened : List (Nat × Kind)) (place : Nat) : Prop where
  closed : ∀ p ∈ past, p.1 ∉ opened.map Prod.fst
  before : ∀ p ∈ past, p.1 < place ∧ p.2 < place
  distinct : (opened.map Prod.fst).Nodup
  opened : ∀ b ∈ opened, b.1 < place

namespace Past

variable {past : List (Nat × Nat)} {opened inner outer : List (Nat × Kind)} {place start : Nat}
  {kind : Kind}

theorem next (h : Past past opened place) : Past past opened (place + 1) := by
  refine ⟨h.closed, fun p hp => ?_, h.distinct, fun b hb => Nat.lt_succ_of_lt (h.opened b hb)⟩
  exact ⟨Nat.lt_succ_of_lt (h.before p hp).1, Nat.lt_succ_of_lt (h.before p hp).2⟩

theorem opens (h : Past past opened place) (kind : Kind) :
    Past past ((place, kind) :: opened) (place + 1) := by
  have fresh : place ∉ opened.map Prod.fst := by
    intro member
    obtain ⟨b, hb, same⟩ := List.mem_map.1 member
    exact Nat.ne_of_lt (h.opened b hb) same
  refine ⟨fun p hp => ?_, h.next.before, ?_, ?_⟩
  · rw [List.map_cons, List.mem_cons, not_or]
    exact ⟨Nat.ne_of_lt (h.before p hp).1, h.closed p hp⟩
  · rw [List.map_cons, List.nodup_cons]
    exact ⟨fresh, h.distinct⟩
  · exact List.forall_mem_cons.2 ⟨Nat.lt_succ_self place, h.next.opened⟩

theorem closes (h : Past past (inner ++ (start, kind) :: outer) place) :
    Past (past ++ [(start, place)]) outer (place + 1) := by
  have distinct := h.distinct
  rw [List.map_append, List.map_cons, List.nodup_append, List.nodup_cons] at distinct
  have started : start < place := h.opened (start, kind) (by simp)
  refine ⟨?_, ?_, distinct.2.1.2, fun b hb => h.next.opened b (by simp [hb])⟩
  · rw [List.forall_mem_append, List.forall_mem_singleton]
    exact ⟨fun p hp member => h.closed p hp (by simp [member]), distinct.2.1.1⟩
  · rw [List.forall_mem_append, List.forall_mem_singleton]
    exact ⟨h.next.before, Nat.lt_succ_of_lt started, Nat.lt_succ_self place⟩

/-- A block inside one that is ended is in no pair: in no past one, not in that one, and in no later
one. -/
theorem given_up (h : Past past (inner ++ (start, kind) :: outer) place) (steps : List Step)
    {b : Nat × Kind} (hb : b ∈ inner) :
    b.1 ∉ (past ++ (start, place) :: pairsFrom (place + 1) outer steps).map Prod.fst := by
  have distinct := h.distinct
  rw [List.map_append, List.map_cons, List.nodup_append] at distinct
  have inside : b.1 ∈ inner.map Prod.fst := List.mem_map_of_mem hb
  have apart {i : Nat} (hi : i ∈ start :: outer.map Prod.fst) : i ≠ b.1 :=
    (distinct.2.2 _ inside _ hi).symm
  rw [List.mem_map]
  rintro ⟨p, hp, same⟩
  rcases List.mem_append.1 hp with old | new
  · exact h.closed p old (same ▸ List.mem_map_of_mem (List.mem_append_left _ hb))
  · rcases List.mem_cons.1 new with rfl | new
    · exact apart List.mem_cons_self same
    · rcases (bounds_of_mem_pairsFrom new).1 with around | late
      · exact apart (List.mem_cons_of_mem _ around) same
      · have := h.opened b (by simp [hb])
        omega

/-- A closing tag that finds no block is in no pair. -/
theorem stray (h : Past past opened place) (steps : List Step) :
    place ∉ (past ++ pairsFrom (place + 1) opened steps).map Prod.snd := by
  rw [List.mem_map]
  rintro ⟨p, hp, same⟩
  rcases List.mem_append.1 hp with old | new
  · exact absurd same (Nat.ne_of_lt (h.before p old).2)
  · exact absurd same (Nat.ne_of_gt (bounds_of_mem_pairsFrom new).2)

end Past

/-- The marks that the pairs give are the fates. Here some pairs lie in the past, and the others are
made by the steps to come. -/
theorem fate_pairsFrom {past : List (Nat × Nat)} {opened : List (Nat × Kind)} {place : Nat}
    (h : Past past opened place) (steps : List Step) :
    Fate (opened.map (markBlock (past ++ pairsFrom place opened steps)))
      ((steps.zipIdx place).map (markStep (past ++ pairsFrom place opened steps))) := by
  induction steps generalizing past opened place with
  | nil =>
      refine .done fun b hb => ?_
      obtain ⟨b, member, rfl⟩ := List.mem_map.1 hb
      rw [markBlock, pairsFrom, List.append_nil, decide_eq_false_iff_not, List.mem_map]
      rintro ⟨p, hp, same⟩
      exact h.closed p hp (same ▸ List.mem_map_of_mem member)
  | cons step steps ih =>
      rw [List.zipIdx_cons, List.map_cons]
      cases step with
      | leaf node => exact .leaf (ih h.next)
      | opens block =>
          have mark (pairs : List (Nat × Nat)) : markStep pairs (.opens block, place) =
              (.opens block, (markBlock pairs (place, block.kind)).2) :=
            congrArg (Prod.mk _) (decide_eq_decide.2 not_not)
          rw [mark]
          exact .opens (ih (h.opens block.kind))
      | closes kind source =>
          cases found : innermost? kind opened with
          | some block =>
              obtain ⟨start, outer⟩ := block
              obtain ⟨inner, rfl, others⟩ := innermost?_eq_some found
              have made : pairsFrom place (inner ++ (start, kind) :: outer)
                  (.closes kind source :: steps) =
                  (start, place) :: pairsFrom (place + 1) outer steps := by
                simp only [pairsFrom, found]
              have rest := ih h.closes
              rw [List.append_assoc, List.singleton_append] at rest
              rw [made, List.map_append, List.map_cons]
              have ended (later : List (Nat × Nat)) : markBlock (past ++ (start, place) :: later)
                  (start, kind) = (kind, true) := by
                simp [markBlock]
              have stays (later : List (Nat × Nat)) : markStep (past ++ (start, place) :: later)
                  (.closes kind source, place) = (.closes kind source, true) := by
                simp [markStep, Lone]
              rw [ended, stays]
              refine .closes (fun b hb => ?_) rest
              obtain ⟨b, member, rfl⟩ := List.mem_map.1 hb
              exact ⟨others b member, decide_eq_false (h.given_up steps member)⟩
          | none =>
              have made : pairsFrom place opened (.closes kind source :: steps) =
                  pairsFrom (place + 1) opened steps := by
                simp only [pairsFrom, found]
              have lost : markStep (past ++ pairsFrom (place + 1) opened steps)
                  (.closes kind source, place) = (.closes kind source, false) :=
                congrArg (Prod.mk _) (decide_eq_false (not_not.2 (h.stray steps)))
              rw [made, lost]
              refine .stray (fun b hb => ?_) (ih h.next)
              obtain ⟨b, member, rfl⟩ := List.mem_map.1 hb
              exact innermost?_eq_none found b member

/-- Steps, each marked unless it is a tag that stands alone. -/
def marked (steps : List Step) : List (Step × Bool) := steps.zipIdx.map (markStep (pairs steps))

theorem fate_marked (steps : List Step) : Fate [] (marked steps) := by
  have start : Past [] [] 0 := ⟨by simp, by simp, List.nodup_nil, by simp⟩
  exact fate_pairsFrom start steps

@[simp] theorem map_fst_marked (steps : List Step) : (marked steps).map Prod.fst = steps := by
  rw [marked, List.map_map]
  exact List.zipIdx_map_fst 0 steps

theorem matched_iff (steps : List Step) : Matched steps ↔ ∀ x ∈ marked steps, x.2 = true := by
  rw [marked, List.forall_mem_map]
  exact forall₂_congr fun x _ => decide_eq_true_iff.symm

/-! ## Nesting -/

/-- Steps that close all blocks, those that are open before, the innermost first, and those that
they open, each closing tag the innermost one. -/
inductive Nested : List Kind → List Step → Prop
  | done : Nested [] []
  | leaf {opened : List Kind} {steps : List Step} {node : Node} (rest : Nested opened steps) :
      Nested opened (.leaf node :: steps)
  | opens {opened : List Kind} {steps : List Step} {block : Opening}
      (rest : Nested (block.kind :: opened) steps) : Nested opened (.opens block :: steps)
  | closes {opened : List Kind} {steps : List Step} {kind : Kind} {source : String}
      (rest : Nested opened steps) : Nested (kind :: opened) (.closes kind source :: steps)

theorem nested_leaf {opened : List Kind} {steps : List Step} {node : Node} :
    Nested opened (.leaf node :: steps) ↔ Nested opened steps := by
  constructor
  · intro h
    cases h with
    | leaf rest => exact rest
  · exact .leaf

theorem nested_opens {opened : List Kind} {steps : List Step} {block : Opening} :
    Nested opened (.opens block :: steps) ↔ Nested (block.kind :: opened) steps := by
  constructor
  · intro h
    cases h with
    | opens rest => exact rest
  · exact .opens

/-- What closes the outer blocks may come behind what closes the inner ones. -/
theorem Nested.append {opened outer : List Kind} {steps more : List Step} (h : Nested opened steps)
    (h' : Nested outer more) : Nested (opened ++ outer) (steps ++ more) := by
  induction h with
  | done => exact h'
  | leaf _ ih => exact .leaf ih
  | opens _ ih => exact .opens ih
  | closes _ ih => exact .closes ih

/-- The marked steps. -/
def kept (steps : List (Step × Bool)) : List Step := (steps.filter Prod.snd).map Prod.fst

section

variable {opened : List (Kind × Bool)} {steps : List (Step × Bool)}

theorem filter_marked_eq_nil (left : ∀ b ∈ opened, b.2 = false) : opened.filter Prod.snd = [] :=
  List.filter_eq_nil_iff.2 fun b hb => Bool.eq_false_iff.1 (left b hb)

/-- Without the tags that stand alone, every closing tag finds its block innermost. -/
theorem Fate.nested_kept (h : Fate opened steps) :
    Nested ((opened.filter Prod.snd).map Prod.fst) (kept steps) := by
  induction h with
  | done left =>
      rw [filter_marked_eq_nil left]
      exact .done
  | leaf _ ih => exact .leaf ih
  | @opens _ _ block ended _ ih =>
      cases ended with
      | true => exact .opens ih
      | false => exact ih
  | @closes inner outer _ kind _ left _ ih =>
      have none : inner.filter Prod.snd = [] := filter_marked_eq_nil fun b hb => (left b hb).2
      rw [List.filter_append, none, List.nil_append, List.filter_cons_of_pos rfl]
      exact .closes ih
  | stray _ _ ih => exact ih

/-- If the steps are nested, no block is given up and no tag stands alone. -/
theorem Fate.all_marked (h : Fate opened steps)
    (nested : Nested (opened.map Prod.fst) (steps.map Prod.fst)) :
    (∀ b ∈ opened, b.2 = true) ∧ ∀ x ∈ steps, x.2 = true := by
  induction h with
  | @done opened left =>
      cases opened with
      | nil => simp
      | cons b opened => cases nested
  | leaf _ ih =>
      obtain ⟨blocks, later⟩ := ih (nested_leaf.1 nested)
      exact ⟨blocks, List.forall_mem_cons.2 ⟨rfl, later⟩⟩
  | opens _ ih =>
      obtain ⟨blocks, later⟩ := ih (nested_opens.1 nested)
      rw [List.forall_mem_cons] at blocks
      exact ⟨blocks.2, List.forall_mem_cons.2 ⟨blocks.1, later⟩⟩
  | @closes inner outer _ kind _ left _ ih =>
      cases inner with
      | cons b inner =>
          -- The innermost block is of another kind.
          cases nested
          exact absurd rfl (left _ List.mem_cons_self).1
      | nil =>
          cases nested with
          | closes rest =>
              obtain ⟨blocks, later⟩ := ih rest
              exact ⟨List.forall_mem_cons.2 ⟨rfl, blocks⟩, List.forall_mem_cons.2 ⟨rfl, later⟩⟩
  | @stray opened _ _ _ none _ _ =>
      cases opened with
      | nil => cases nested
      | cons b opened =>
          cases nested
          exact absurd rfl (none b List.mem_cons_self)

end

/-- Every tag has its partner exactly if the steps are nested. -/
theorem matched_iff_nested (steps : List Step) : Matched steps ↔ Nested [] steps := by
  rw [matched_iff]
  constructor
  · intro all
    have nested := (fate_marked steps).nested_kept
    rw [kept, List.filter_eq_self.2 all, map_fst_marked] at nested
    exact nested
  · intro nested
    refine ((fate_marked steps).all_marked ?_).2
    rw [map_fst_marked]
    exact nested

/-! ## Texts between nested tags -/

section

variable {opened : List Kind} {segs : List Segment}

theorem nested_addText (s : List Char) (h : Nested opened (segs.map Segment.step)) :
    Nested opened ((addText s segs).map Segment.step) := by
  rcases addText_cases s segs with ⟨t, later, rfl, joined⟩ | apart
  · rw [joined]
    exact .leaf (nested_leaf.1 h)
  · rw [apart, textSegments]
    split
    · exact h
    · exact .leaf h

/-- Joining texts leaves the tags nested. -/
theorem nested_fuse (h : Nested opened (segs.map Segment.step)) :
    Nested opened ((fuse segs).map Segment.step) := by
  induction segs generalizing opened with
  | nil => exact h
  | cons seg segs ih =>
      cases seg with
      | text s => exact nested_addText s (ih (nested_leaf.1 h))
      | tag body =>
          rw [fuse, List.map_cons]
          rw [List.map_cons] at h
          generalize (Segment.tag body).step = step at h ⊢
          cases h with
          | leaf rest => exact .leaf (ih rest)
          | opens rest => exact .opens (ih rest)
          | closes rest => exact .closes (ih rest)

end

end MinuteBook.Markup
