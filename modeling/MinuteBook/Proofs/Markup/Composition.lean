import MinuteBook.Proofs.Markup.Alike
import MinuteBook.Proofs.Markup.Grafting
import MinuteBook.Proofs.Markup.Opening

/-!
# Templates are rendered piece by piece

A template is closed if each of its tags of blocks has its partner and the text behind its last tag
is sealed. What a closed template prints does not depend on where it stands: followed by any other
text it prints what it prints alone and then what the other text prints, and as the body of a block
it prints what it prints alone, once for each item or not at all (`render_compositional`).
-/

namespace MinuteBook.Markup

/-! ## Closed templates -/

/-- Every tag of a block has its partner, and the text behind the last tag holds no pair of opening
braces and does not end in half of one. -/
structure Closed (template : String) : Prop where
  matched : Matched ((segments template.toList).map Segment.step)
  tail : ∀ t, (segments template.toList).getLast? = some (.text t) → Sealed '\x7b' t

section

variable {body rest : String} {opening closing : List Char} {block : Opening}

theorem Closed.nested (h : Closed body) :
    Nested [] ((segments body.toList).map Segment.step) :=
  (matched_iff_nested _).1 h.matched

theorem Closed.sealed (h : Closed body) : ∀ seg ∈ segments body.toList, seg.Sealed :=
  (splits_segments _).sealed h.tail

theorem closed_of_sealed (nested : Nested [] ((segments body.toList).map Segment.step))
    (sealed : ∀ seg ∈ segments body.toList, seg.Sealed) : Closed body :=
  ⟨(matched_iff_nested _).2 nested, fun _ last => sealed _ (List.mem_of_getLast? last)⟩

/-! ### Texts -/

theorem segments_of_noPair {s : List Char} (h : NoPair '\x7b' s) : segments s = textSegments s :=
  segments_of_none (firstTag?_eq_none h)

/-- A text without a pair of opening braces prints itself. -/
theorem render_text {t : String} (h : NoPair '\x7b' t.toList) (filters : Filters) (s : Store) :
    render filters t s = .ok t := by
  rw [render, parse, segments_of_noPair h, textSegments]
  split
  · rename_i none
    exact congrArg Except.ok (String.toList_eq_nil_iff.1 none).symm
  · rw [List.map_singleton, Segment.step, String.ofList_toList]
    change (do return String.ofList (← renderAll filters [.text t] s)) = Except.ok t
    rw [renderAll_cons, Node.render, renderAll_nil, ok_bind, ok_bind]
    change Except.ok (String.ofList (t.toList ++ [])) = Except.ok t
    rw [List.append_nil, String.ofList_toList]

theorem closed_text {t : String} (h : Sealed '\x7b' t.toList) : Closed t := by
  have none := firstTag?_eq_none h.1
  refine closed_of_sealed ?_ ?_
  · rw [segments_of_noPair h.1, textSegments]
    split
    · exact .done
    · exact .leaf .done
  · rw [segments_of_noPair h.1, textSegments]
    split
    · simp
    · exact List.forall_mem_singleton.2 h

/-! ### Tags that print something -/

theorem segments_leaf {t : String} {inner : List Char}
    (only : t.toList = (Segment.tag inner).source) (whole : Sealed '\x7d' inner) :
    segments t.toList = [.tag inner] := by
  have split : segments ((Segment.tag inner).source ++ []) = .tag inner :: segments [] :=
    segments_tag whole []
  have none : segments [] = [] := segments_of_none rfl
  rwa [List.append_nil, none, ← only] at split

theorem closed_leaf {t : String} {inner : List Char} {node : Node}
    (only : t.toList = (Segment.tag inner).source) (whole : Sealed '\x7d' inner)
    (leaf : tagStep inner = .leaf node) : Closed t := by
  refine closed_of_sealed ?_ ?_
  · rw [segments_leaf only whole, List.map_singleton, Segment.step, leaf]
    exact .leaf .done
  · rw [segments_leaf only whole]
    exact List.forall_mem_singleton.2 whole

/-- A tag with an expression prints what the expression prints. -/
theorem render_leaf {t : String} {inner : List Char} {e : Expression}
    (only : t.toList = (Segment.tag inner).source) (whole : Sealed '\x7d' inner)
    (leaf : tagStep inner = .leaf (.expression e)) (filters : Filters) (s : Store) :
    render filters t s = e.render filters s := by
  rw [render, parse, segments_leaf only whole, List.map_singleton, Segment.step, leaf]
  change (do return String.ofList (← renderAll filters [.expression e] s)) = e.render filters s
  rw [renderAll_cons, Node.render, renderAll_nil]
  cases e.render filters s with
  | error f => rfl
  | ok out =>
      change Except.ok (String.ofList (out.toList ++ [])) = Except.ok out
      rw [List.append_nil, String.ofList_toList]

/-! ### One template behind another -/

theorem segments_append (h : Closed body) (rest : String) :
    segments (body ++ rest).toList = fuse (segments body.toList ++ segments rest.toList) := by
  have whole := segments_flatMap (Splits.append h.sealed (splits_segments rest.toList))
  rwa [List.flatMap_append, source_segments, source_segments, ← String.toList_append] at whole

theorem parse_append (h : Closed body) (rest : String) :
    Alike (parse (body ++ rest)) (parse body ++ parse rest) := by
  have whole := alike_parse (Splits.append h.sealed (splits_segments rest.toList))
  rw [List.flatMap_append, source_segments, source_segments, ← String.toList_append,
    String.ofList_toList, List.map_append, ofSteps_append h.nested] at whole
  exact whole

theorem Closed.append (h : Closed body) (h' : Closed rest) : Closed (body ++ rest) := by
  refine closed_of_sealed ?_ ?_
  · rw [segments_append h]
    refine nested_fuse ?_
    rw [List.map_append]
    exact h.nested.append h'.nested
  · rw [segments_append h]
    exact sealed_fuse (List.forall_mem_append.2 ⟨h.sealed, h'.sealed⟩)

theorem render_append (h : Closed body) (rest : String) (filters : Filters) (s : Store) :
    render filters (body ++ rest) s =
      do return (← render filters body s) ++ (← render filters rest s) := by
  rw [render, parse_append h rest, renderAll_append, render, render]
  cases renderAll filters (parse body) s <;> cases renderAll filters (parse rest) s <;>
    simp [bind, Except.bind, pure, Except.pure]

/-! ### Blocks -/

/-- Two tags that open and close a block. -/
structure Encloses (block : Opening) (opening closing : List Char) : Prop where
  opens : tagStep opening = .opens block
  closes : ∃ source, tagStep closing = .closes block.kind source
  first : (Segment.tag opening).Sealed
  last : (Segment.tag closing).Sealed

/-- A template between two tags. -/
def enclose (opening closing : List Char) (body : String) : String :=
  String.ofList ((Segment.tag opening).source ++ body.toList ++ (Segment.tag closing).source)

theorem enclose_eq (opening closing : List Char) (body : String) :
    enclose opening closing body = String.ofList
      ((.tag opening :: (segments body.toList ++ [.tag closing])).flatMap Segment.source) := by
  rw [enclose, List.flatMap_cons, List.flatMap_append, source_segments, List.flatMap_singleton,
    List.append_assoc]

theorem Encloses.splits (tags : Encloses block opening closing) (h : Closed body) :
    Splits (.tag opening :: (segments body.toList ++ [.tag closing])) :=
  .cons tags.first (.append h.sealed (.cons tags.last .nil))

/-- Between two tags of a block a closed template is the body of that block. -/
theorem parse_enclose (tags : Encloses block opening closing) (h : Closed body) :
    Alike (parse (enclose opening closing body)) [block.node (parse body)] := by
  obtain ⟨source, closes⟩ := tags.closes
  have whole := alike_parse (tags.splits h)
  rw [List.map_cons, List.map_append, List.map_singleton, Segment.step, tags.opens, Segment.step,
    closes, ofSteps_block h.nested] at whole
  rw [enclose_eq]
  exact whole

theorem Closed.enclose (tags : Encloses block opening closing) (h : Closed body) :
    Closed (enclose opening closing body) := by
  obtain ⟨source, closes⟩ := tags.closes
  have found : segments (Markup.enclose opening closing body).toList =
      .tag opening :: (segments body.toList ++ [.tag closing]) := by
    rw [enclose_eq, String.toList_ofList, segments_flatMap (tags.splits h), fuse, fuse_append_tag,
      fuse_segments, fuse]
  refine closed_of_sealed ?_ ?_
  · rw [found, List.map_cons, List.map_append, List.map_singleton, Segment.step, tags.opens,
      Segment.step, closes]
    have last : Nested [block.kind] [.closes block.kind source] := .closes .done
    exact .opens (h.nested.append last)
  · rw [found, List.forall_mem_cons, List.forall_mem_append, List.forall_mem_singleton]
    exact ⟨tags.first, h.sealed, tags.last⟩

/-- A template as the body of a block with a test. -/
def whenBlock (test body : String) : String :=
  "\x7b\x7b#if " ++ test ++ "\x7d\x7d" ++ body ++ "\x7b\x7b/if\x7d\x7d"

/-- A template as the body of a block that is repeated. -/
def eachBlock (path body : String) : String :=
  "\x7b\x7b#each " ++ path ++ "\x7d\x7d" ++ body ++ "\x7b\x7b/each\x7d\x7d"

theorem whenBlock_eq (source body : String) :
    whenBlock source body = enclose ("#if".toList ++ ' ' :: source.toList) "/if".toList body := by
  rw [← String.toList_inj, enclose, String.toList_ofList]
  simp [whenBlock, Segment.source]

theorem eachBlock_eq (path body : String) :
    eachBlock path body = enclose ("#each".toList ++ ' ' :: path.toList) "/each".toList body := by
  rw [← String.toList_inj, enclose, String.toList_ofList]
  simp [eachBlock, Segment.source]

theorem encloses_when_of_sealed {source : String} {test : Test}
    (h : Test.parse source = .ok test) (whole : Sealed '\x7d' source.toList) :
    Encloses (.when test) ("#if".toList ++ ' ' :: source.toList) "/if".toList := by
  refine ⟨tagStep_openWhen h, ⟨_, tagStep_closing.1⟩, ?_, ?_⟩
  · have word : Sealed '\x7d' "#if".toList := sealed_of_not_mem (by decide)
    have space : Sealed '\x7d' [' '] := sealed_of_not_mem (by decide)
    exact Markup.Sealed.append word (Markup.Sealed.append space whole)
  · exact sealed_of_not_mem (by decide)

theorem encloses_when {source : String} {test : Test} (h : Test.parse source = .ok test)
    (free : '\x7d' ∉ source.toList) :
    Encloses (.when test) ("#if".toList ++ ' ' :: source.toList) "/if".toList :=
  encloses_when_of_sealed h (sealed_of_not_mem free)

theorem encloses_each {path : String} (word : Token.IsWord path.toList)
    (free : '\x7d' ∉ path.toList) :
    Encloses (.each path) ("#each".toList ++ ' ' :: path.toList) "/each".toList := by
  have name : IsName path := ⟨word, noPair_of_not_mem free⟩
  refine ⟨tagStep_openEach name.tokens, ⟨_, tagStep_closing.2⟩, ?_, ?_⟩
  · exact sealed_of_not_mem (by simp [free])
  · exact sealed_of_not_mem (by decide)

theorem render_when_of_sealed {source : String} {test : Test} (h : Closed body)
    (reads : Test.parse source = .ok test) (whole : Sealed '\x7d' source.toList)
    (filters : Filters) (s : Store) :
    render filters (whenBlock source body) s =
      do if ← test.holds s then render filters body s else return "" := by
  rw [whenBlock_eq, render, parse_enclose (encloses_when_of_sealed reads whole) h, renderAll_cons,
    Opening.node, Node.render]
  cases test.holds s with
  | error e => rfl
  | ok holds =>
      cases holds with
      | false => rfl
      | true =>
          rw [render]
          cases renderAll filters (parse body) s <;>
            simp [bind, Except.bind, pure, Except.pure]

theorem render_when {source : String} {test : Test} (h : Closed body)
    (reads : Test.parse source = .ok test) (free : '\x7d' ∉ source.toList) (filters : Filters)
    (s : Store) :
    render filters (whenBlock source body) s =
      do if ← test.holds s then render filters body s else return "" :=
  render_when_of_sealed h reads (sealed_of_not_mem free) filters s

theorem itemsAt_eq {path : String} (filled : path ≠ "") (s : Store) :
    itemsAt s path = ((s.lookup path).bind Value.items?).getD [] := by
  rw [itemsAt, if_neg filled, Store.lookupOrNull]
  cases s.lookup path <;> rfl

theorem join_map_ofList (parts : List (List Char)) :
    String.join (parts.map String.ofList) = String.ofList parts.flatten := by
  rw [← String.toList_inj, String.toList_join, String.toList_ofList, List.flatMap_map]
  simp [List.flatMap_id']

theorem render_each {path : String} (h : Closed body) (word : Token.IsWord path.toList)
    (free : '\x7d' ∉ path.toList) (filters : Filters) (s : Store) :
    render filters (eachBlock path body) s =
      match (s.lookup path).bind Value.items? with
      | some items => do
        let parts ← items.mapM fun item => do
          render filters body (← s.child [(Store.itemKey, item)])
        return String.join parts
      | none => .ok "" := by
  have filled : path ≠ "" := fun none => word.filled (by rw [none]; rfl)
  have child (item : Value) : s.child [(Store.itemKey, item)] = .ok (s.set Store.itemKey item) :=
    rfl
  rw [eachBlock_eq, render, parse_enclose (encloses_each word free) h, renderAll_cons,
    Opening.node, Node.render, itemsAt_eq filled]
  cases (s.lookup path).bind Value.items? with
  | none => rfl
  | some items =>
      simp only [child, ok_bind, Option.getD_some, render]
      rw [mapM_result]
      cases items.mapM fun item => renderAll filters (parse body) (s.set Store.itemKey item) with
      | error e => rfl
      | ok parts =>
          change Except.ok (String.ofList (parts.flatten ++ [])) =
            Except.ok (String.join (parts.map String.ofList))
          rw [List.append_nil, join_map_ofList]

/-- What a closed template prints does not depend on where it stands: before any other text, closed
or not, or as the body of a block that is printed once, for each item of a list or not at all. A
template put together so is closed again, if the other text is. -/
theorem render_compositional (closed : Closed body) :
    (∀ rest, (Closed rest → Closed (body ++ rest)) ∧
      ∀ filters s, render filters (body ++ rest) s =
        do return (← render filters body s) ++ (← render filters rest s)) ∧
    (∀ source test, Test.parse source = .ok test → '\x7d' ∉ source.toList →
      Closed (whenBlock source body) ∧
      ∀ filters s, render filters (whenBlock source body) s =
        do if ← test.holds s then render filters body s else return "") ∧
    (∀ path : String, Token.IsWord path.toList → '\x7d' ∉ path.toList →
      Closed (eachBlock path body) ∧
      ∀ filters s, render filters (eachBlock path body) s =
        match (s.lookup path).bind Value.items? with
        | some items => do
          let parts ← items.mapM fun item => do
            render filters body (← s.child [(Store.itemKey, item)])
          return String.join parts
        | none => .ok "") := by
  refine ⟨fun rest => ⟨closed.append, render_append closed rest⟩, ?_, ?_⟩
  · intro source test reads free
    rw [whenBlock_eq]
    exact ⟨closed.enclose (encloses_when reads free),
      fun filters s => whenBlock_eq source body ▸ render_when closed reads free filters s⟩
  · intro path word free
    rw [eachBlock_eq]
    exact ⟨closed.enclose (encloses_each word free),
      fun filters s => eachBlock_eq path body ▸ render_each closed word free filters s⟩

/-- For instance, a list inside a block with a test, with a closing tag too many behind them. -/
theorem render_rows :
    let rows := eachBlock "rows" "- "
    let store : Store := ⟨[("on", .bool true), ("rows", .list [.int 1, .int 2])], []⟩
    Closed "- " ∧ Closed rows ∧ Closed (whenBlock "on" rows) ∧
      render [] (whenBlock "on" rows ++ "\x7b\x7b/if\x7d\x7d!") store = .ok "- - !" := by
  intro rows store
  have item : Closed "- " := closed_text (sealed_of_not_mem (by decide))
  have word {s : String} (filled : s.toList ≠ []) (chars : s.toList.all Token.isWordChar = true) :
      Token.IsWord s.toList := ⟨filled, List.all_eq_true.1 chars⟩
  obtain ⟨closed, repeated⟩ :=
    (render_compositional item).2.2 "rows" (word (by decide) (by decide)) (by decide)
  have on : IsName "on" := ⟨word (by decide) (by decide), noPair_of_not_mem (by decide)⟩
  have reads : Test.parse "on" = .ok (.truthy "on") := Test.parse_source (t := .truthy "on") on
  obtain ⟨outer, tested⟩ := (render_compositional closed).2.1 "on" _ reads (by decide)
  have behind := ((render_compositional outer).1 "\x7b\x7b/if\x7d\x7d!").2 [] store
  have dash (s : Store) : render [] "- " s = .ok "- " :=
    render_text (noPair_of_not_mem (by decide)) [] s
  have stray : render [] "\x7b\x7b/if\x7d\x7d!" store = .ok "!" := by
    have found : segments "\x7b\x7b/if\x7d\x7d!".toList = [.tag "/if".toList, .text ['!']] := by
      have clear : (Segment.tag "/if".toList).Clear := clear_word (by decide)
      have split := segments_tag clear ['!']
      rwa [segments_of_noPair noPair_singleton] at split
    rw [render, parse, found]
    rfl
  have holds : (Test.truthy "on").holds store = .ok true := by rfl
  have found : (store.lookup "rows").bind Value.items? = some [.int 1, .int 2] := by rfl
  refine ⟨item, closed, outer, ?_⟩
  rw [behind, tested, holds, ok_bind, if_pos rfl, repeated, found, stray]
  simp only [Store.child, dash]
  rfl

end

end MinuteBook.Markup
