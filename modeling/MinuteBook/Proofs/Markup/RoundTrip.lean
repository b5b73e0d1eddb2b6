import Mathlib.Data.List.TakeWhile
import MinuteBook.Proofs.Expression.Spelling
import MinuteBook.Proofs.Markup.Opening

/-!
# A printed tree is read back

Every tree of texts, expressions and blocks is the tree of the template that it is printed as. The
print of a tree is a sequence of texts and tags that are found again (`segments_sourceAll`), each
tag does what its node says (`tagStep_expression`, `tagStep_when`, `tagStep_each`), and the steps of
a node, taken with any blocks open around it, add the node to the innermost of them
(`Node.foldl_step`).
-/

namespace MinuteBook.Markup

/-! ## Printing -/

/-- A tag with a blank inside each pair of braces. -/
def tagged (s : List Char) : List Char :=
  '\x7b' :: '\x7b' :: ' ' :: (s ++ [' ', '\x7d', '\x7d'])

mutual

/-- What a node is printed as. -/
def Node.source : Node → List Char
  | .text t => t.toList
  | .expression e => tagged e.source
  | .when test children =>
    tagged ("#if".toList ++ ' ' :: test.source) ++
      (sourceAll children ++ "\x7b\x7b/if\x7d\x7d".toList)
  | .each path children =>
    tagged ("#each".toList ++ ' ' :: path.toList) ++
      (sourceAll children ++ "\x7b\x7b/each\x7d\x7d".toList)
  | .blank source => source.toList

def sourceAll : List Node → List Char
  | [] => []
  | n :: ns => n.source ++ sourceAll ns

end

/-- The template that a tree is printed as. -/
def print (nodes : List Node) : String := String.ofList (sourceAll nodes)

def Node.isText : Node → Bool
  | .text _ => true
  | _ => false

mutual

/-- A node that is read back: a text is not empty, holds no pair of opening braces and does not end
in one, and no text stands next to another. -/
def Node.WellFormed : Node → Prop
  | .text t => t ≠ "" ∧ NoPair '\x7b' t.toList ∧ t.toList.getLast? ≠ some '\x7b'
  | .expression e => e.WellFormed
  | .when test children => test.WellFormed ∧ AllWellFormed children
  | .each path children => IsName path ∧ AllWellFormed children
  | .blank _ => False

def AllWellFormed : List Node → Prop
  | [] => True
  | n :: ns => n.WellFormed ∧ AllWellFormed ns ∧
    ∀ next ∈ ns.head?, ¬ (n.isText = true ∧ next.isText = true)

end

/-! ## Segments -/

/-- The body of a tag with a blank at each end. -/
def spaced (s : List Char) : List Char := ' ' :: (s ++ [' '])

mutual

/-- The texts and tags of which the print of a node consists. -/
def Node.segments : Node → List Segment
  | .text t => [.text t.toList]
  | .expression e => [.tag (spaced e.source)]
  | .when test children =>
    .tag (spaced ("#if".toList ++ ' ' :: test.source)) ::
      (segmentsAll children ++ [.tag "/if".toList])
  | .each path children =>
    .tag (spaced ("#each".toList ++ ' ' :: path.toList)) ::
      (segmentsAll children ++ [.tag "/each".toList])
  | .blank source => [.text source.toList]

def segmentsAll : List Node → List Segment
  | [] => []
  | n :: ns => n.segments ++ segmentsAll ns

end

theorem source_spaced (s : List Char) : (Segment.tag (spaced s)).source = tagged s := by
  simp [Segment.source, spaced, tagged]

mutual

theorem Node.flatMap_source (n : Node) : n.segments.flatMap Segment.source = n.source := by
  match n with
  | .text t => exact List.append_nil _
  | .expression e => exact (List.append_nil _).trans (source_spaced e.source)
  | .when test children =>
      rw [Node.segments, Node.source, List.flatMap_cons, List.flatMap_append,
        flatMap_sourceAll children, source_spaced]
      rfl
  | .each path children =>
      rw [Node.segments, Node.source, List.flatMap_cons, List.flatMap_append,
        flatMap_sourceAll children, source_spaced]
      rfl
  | .blank source => exact List.append_nil _

theorem flatMap_sourceAll (ns : List Node) :
    (segmentsAll ns).flatMap Segment.source = sourceAll ns := by
  match ns with
  | [] => rfl
  | n :: ns =>
      rw [segmentsAll, sourceAll, List.flatMap_append, Node.flatMap_source n, flatMap_sourceAll ns]

end

/-! ## The segments are found again -/

theorem clear_spaced {s : List Char} (h : NoPair '\x7d' s) : (Segment.tag (spaced s)).Clear := by
  have space : ' ' ≠ '\x7d' := by decide
  refine ⟨?_, ?_⟩
  · rw [spaced, noPair_cons space, noPair_append_cons space]
    exact ⟨h, noPair_nil⟩
  · rw [spaced, ← List.cons_append, List.getLast?_append]
    simp

theorem clear_opening {word s : List Char} (free : '\x7d' ∉ word) (h : NoPair '\x7d' s) :
    (Segment.tag (spaced (word ++ ' ' :: s))).Clear := by
  apply clear_spaced
  rw [noPair_append_cons (by decide)]
  exact ⟨noPair_of_not_mem free, h⟩

theorem clear_word {word : List Char} (free : '\x7d' ∉ word) : (Segment.tag word).Clear := by
  refine ⟨noPair_of_not_mem free, fun last => ?_⟩
  exact free (List.mem_of_getLast? last)

mutual

theorem Node.clear (n : Node) (h : n.WellFormed) : ∀ seg ∈ n.segments, seg.Clear := by
  match n with
  | .text t =>
      rw [Node.segments, List.forall_mem_singleton]
      exact ⟨fun none => h.1 (String.toList_eq_nil_iff.1 none), h.2.1, h.2.2⟩
  | .expression e =>
      rw [Node.segments, List.forall_mem_singleton]
      exact clear_spaced (Expression.noPair h)
  | .when test children =>
      rw [Node.segments, List.forall_mem_cons, List.forall_mem_append, List.forall_mem_singleton]
      exact ⟨clear_opening (by decide) (Test.noPair h.1),
        clearAll children h.2, clear_word (by decide)⟩
  | .each path children =>
      rw [Node.segments, List.forall_mem_cons, List.forall_mem_append, List.forall_mem_singleton]
      exact ⟨clear_opening (by decide) h.1.closing, clearAll children h.2, clear_word (by decide)⟩
  | .blank source => exact absurd h id

theorem clearAll (ns : List Node) (h : AllWellFormed ns) : ∀ seg ∈ segmentsAll ns, seg.Clear := by
  match ns with
  | [] => exact fun _ none => absurd none List.not_mem_nil
  | n :: ns =>
      rw [segmentsAll, List.forall_mem_append]
      exact ⟨Node.clear n h.1, clearAll ns h.2.1⟩

end

theorem alternate_tag {body : List Char} {segs : List Segment} (h : Alternate segs) :
    Alternate (.tag body :: segs) := by
  cases segs with
  | nil => exact List.IsChain.singleton _
  | cons seg segs => exact List.IsChain.cons_cons (by simp [Segment.isText]) h

theorem alternate_append_tag {body : List Char} {segs : List Segment} (h : Alternate segs) :
    Alternate (segs ++ [.tag body]) := by
  refine List.isChain_append.2 ⟨h, List.IsChain.singleton _, fun a _ b last => ?_⟩
  obtain rfl := Option.some.inj last
  simp [Segment.isText]

/-- The segments of a node begin and end with a text only if the node is one. -/
theorem Node.ends_segments (n : Node) (h : n.WellFormed) :
    (∀ seg ∈ n.segments.head?, seg.isText = n.isText) ∧
      ∀ seg ∈ n.segments.getLast?, seg.isText = n.isText := by
  match n with
  | .text t => simp [Node.segments, Node.isText, Segment.isText]
  | .expression e => simp [Node.segments, Node.isText, Segment.isText]
  | .when test children =>
      rw [Node.segments, ← List.cons_append, List.getLast?_append]
      simp [Node.isText, Segment.isText]
  | .each path children =>
      rw [Node.segments, ← List.cons_append, List.getLast?_append]
      simp [Node.isText, Segment.isText]
  | .blank source => exact absurd h id

theorem Node.segments_ne_nil (n : Node) : n.segments ≠ [] := by
  cases n <;> simp [Node.segments]

theorem head?_segmentsAll {ns : List Node} (h : AllWellFormed ns) :
    ∀ seg ∈ (segmentsAll ns).head?, ∃ n ∈ ns.head?, seg.isText = n.isText := by
  cases ns with
  | nil => simp [segmentsAll]
  | cons n ns =>
      intro seg head
      rw [segmentsAll, List.head?_append_of_ne_nil _ n.segments_ne_nil] at head
      exact ⟨n, rfl, (n.ends_segments h.1).1 seg head⟩

mutual

theorem Node.alternate (n : Node) (h : n.WellFormed) : Alternate n.segments := by
  match n with
  | .text t => exact List.IsChain.singleton _
  | .expression e => exact List.IsChain.singleton _
  | .when test children =>
      exact alternate_tag (alternate_append_tag (alternateAll children h.2))
  | .each path children =>
      exact alternate_tag (alternate_append_tag (alternateAll children h.2))
  | .blank source => exact absurd h id

theorem alternateAll (ns : List Node) (h : AllWellFormed ns) : Alternate (segmentsAll ns) := by
  match ns with
  | [] => exact List.IsChain.nil
  | n :: ns =>
      rw [segmentsAll]
      refine List.isChain_append.2 ⟨Node.alternate n h.1, alternateAll ns h.2.1, ?_⟩
      intro a last b head
      obtain ⟨next, front, same⟩ := head?_segmentsAll h.2.1 b head
      rw [(n.ends_segments h.1).2 a last, same]
      exact h.2.2 next front

end

/-- The print of a tree is split into the texts and tags of its nodes. -/
theorem segments_sourceAll {ns : List Node} (h : AllWellFormed ns) :
    segments (sourceAll ns) = segmentsAll ns := by
  rw [← flatMap_sourceAll]
  exact segments_of_clear (clearAll ns h) (alternateAll ns h)

/-! ## What the tags do -/

/-- The word with which an expression begins is its first path. -/
theorem takeWhile_source {e : Expression} (h : e.WellFormed) :
    (e.source.takeWhile fun c => !Text.isBlank c) = e.first.toList := by
  have stop (r : List Char) : ((' ' :: r).takeWhile fun c => !Text.isBlank c) = [] :=
    List.takeWhile_cons_of_neg (by decide)
  cases e with
  | var path filter =>
      obtain ⟨-, name, -⟩ := h
      cases filter with
      | none => exact List.takeWhile_eq_self_iff.2 name.word.visible
      | some filter =>
          exact (List.takeWhile_append_of_pos name.word.visible).trans
            ((congrArg _ (stop _)).trans (List.append_nil _))
  | ternary lhs literal yes no =>
      obtain ⟨-, name, -⟩ := h
      exact (List.takeWhile_append_of_pos name.word.visible).trans
        ((congrArg _ (stop _)).trans (List.append_nil _))

/-- A tag with an expression prints it, unless its first word opens a block or it closes one. -/
theorem tagStep_leaf {body : List Char} {e : Expression}
    (read : Expression.parse (String.ofList (Text.strip body)) = .ok e)
    (head : ∀ word ∈ ["#if", "#each"],
      ((Text.strip body).takeWhile fun c => !Text.isBlank c) ≠ word.toList)
    (whole : ∀ word ∈ ["/if", "/each"], Text.strip body ≠ word.toList) :
    tagStep body = .leaf (.expression e) := by
  unfold tagStep
  simp only
  rw [if_neg (head "#if" (by decide)), if_neg (head "#each" (by decide)),
    if_neg (whole "/if" (by decide)), if_neg (whole "/each" (by decide)), leafOf, read]

theorem tagStep_expression {e : Expression} (h : e.WellFormed) :
    tagStep (spaced e.source) = .leaf (.expression e) := by
  have stripped : Text.strip (spaced e.source) = e.source :=
    Token.strip_gaps Token.gap_space Token.gap_space (Expression.trimmed h)
  have first := takeWhile_source h
  -- None of the words of blocks is the first path, so none is the expression.
  have other {word : String} (block : word ∈ blockWords) : e.first.toList ≠ word.toList := by
    intro same
    exact h.1 (String.toList_inj.1 same ▸ block)
  apply tagStep_leaf
  · rw [stripped, Expression.parse_source h]
  · rw [stripped, first]
    simp only [List.forall_mem_cons]
    exact ⟨other (by decide), other (by decide), List.forall_mem_nil _⟩
  · rw [stripped]
    have apart {word : String} (block : word ∈ blockWords)
        (one : (word.toList.takeWhile fun c => !Text.isBlank c) = word.toList) :
        e.source ≠ word.toList := by
      intro same
      apply other block
      rw [← first, same, one]
    simp only [List.forall_mem_cons]
    exact ⟨apart (by decide) (by rfl), apart (by decide) (by rfl), List.forall_mem_nil _⟩

theorem tagStep_when {test : Test} (h : test.WellFormed) :
    tagStep (spaced ("#if".toList ++ ' ' :: test.source)) = .opens (.when test) := by
  have read : Test.parse (String.ofList (test.source ++ [' '])) = .ok test := by
    refine Test.parse_eq_ok_iff.2 ⟨test.written, test.form_written, ?_⟩
    rw [String.toList_ofList]
    exact (Test.spells_source h).append_gap Token.gap_space
  have chars : (String.ofList (test.source ++ [' '])).toList = test.source ++ [' '] :=
    String.toList_ofList
  have opened := tagStep_openWhen read
  rw [chars] at opened
  rw [spaced, List.append_assoc]
  exact tagStep_space opened

theorem tagStep_each {path : String} (h : IsName path) :
    tagStep (spaced ("#each".toList ++ ' ' :: path.toList)) = .opens (.each path) := by
  have tokens : Expression.tokens (String.ofList (path.toList ++ [' '])) = .ok [.word path] := by
    rw [Expression.tokens_eq_ok_iff, String.toList_ofList]
    exact h.written.spells.append_gap Token.gap_space
  have chars : (String.ofList (path.toList ++ [' '])).toList = path.toList ++ [' '] :=
    String.toList_ofList
  have opened := tagStep_openEach tokens
  rw [chars] at opened
  rw [spaced, List.append_assoc]
  exact tagStep_space opened

theorem tagStep_closing :
    tagStep "/if".toList = .closes .when (String.ofList (Segment.tag "/if".toList).source) ∧
      tagStep "/each".toList =
        .closes .each (String.ofList (Segment.tag "/each".toList).source) :=
  ⟨rfl, rfl⟩

/-! ## Building the tree -/

namespace Builder

/-- A block that is closed with its children in place is a node of the block around it. -/
theorem close_append (b : Builder) (block : Opening) (children : List Node) (source : String) :
    step (append children.reverse (step b (.opens block))) (.closes block.kind source) =
      append [block.node children] b := by
  simp [append, step, close?]

theorem finish_append (ns : List Node) : finish (append ns.reverse empty) = ns := by
  simp [append, finish, unwind, empty]

end Builder

mutual

/-- The steps of a node add the node to the innermost open block. -/
theorem Node.foldl_step (n : Node) (h : n.WellFormed) (b : Builder) :
    (n.segments.map Segment.step).foldl Builder.step b = b.append [n] := by
  match n with
  | .text t =>
      rw [Node.segments, List.map_singleton, Segment.step, String.ofList_toList]
      rfl
  | .expression e =>
      rw [Node.segments, List.map_singleton, Segment.step, tagStep_expression h]
      rfl
  | .when test children =>
      rw [Node.segments, List.map_cons, List.map_append, List.foldl_cons, List.foldl_append,
        Segment.step, tagStep_when h.1, foldl_stepAll children h.2, List.map_singleton,
        List.foldl_cons, List.foldl_nil, Segment.step, tagStep_closing.1]
      exact Builder.close_append b (.when test) children _
  | .each path children =>
      rw [Node.segments, List.map_cons, List.map_append, List.foldl_cons, List.foldl_append,
        Segment.step, tagStep_each h.1, foldl_stepAll children h.2, List.map_singleton,
        List.foldl_cons, List.foldl_nil, Segment.step, tagStep_closing.2]
      exact Builder.close_append b (.each path) children _
  | .blank source => exact absurd h id

theorem foldl_stepAll (ns : List Node) (h : AllWellFormed ns) (b : Builder) :
    ((segmentsAll ns).map Segment.step).foldl Builder.step b = b.append ns.reverse := by
  match ns with
  | [] =>
      obtain ⟨root, frames⟩ := b
      cases frames <;> rfl
  | n :: ns =>
      rw [segmentsAll, List.map_append, List.foldl_append, Node.foldl_step n h.1,
        foldl_stepAll ns h.2.1, Builder.append_append, List.reverse_cons]

end

/-- A well-formed tree is the tree of the template that it is printed as. -/
theorem parse_print {nodes : List Node} (h : AllWellFormed nodes) :
    parse (print nodes) = nodes := by
  rw [parse, print, String.toList_ofList, segments_sourceAll h, ofSteps, foldl_stepAll nodes h,
    Builder.finish_append]

example : print [.when (.equals "a" "b") [.text "x"], .expression (.var "n" (some "upper"))] =
    "\x7b\x7b #if a == \"b\" \x7d\x7dx\x7b\x7b/if\x7d\x7d\x7b\x7b n | upper \x7d\x7d" := by
  rfl

/-- For instance, a literal may hold a quote and braces of its own. -/
theorem parse_print_nested :
    let tree : List Node := [.text "\x7d Dear ", .expression (.var "name" (some "upper")),
      .when (.includes "tags" "it's \x7b\x7b") [.each "rows" [.text "x"], .text " \x7b "],
      .expression (.ternary "a.b" "1" (.path "c") (.literal ""))]
    parse (print tree) = tree := by
  intro tree
  have name {s : String} (filled : s.toList ≠ [])
      (chars : s.toList.all Token.isWordChar = true) (free : '\x7d' ∉ s.toList) : IsName s :=
    ⟨⟨filled, List.all_eq_true.1 chars⟩, noPair_of_not_mem free⟩
  have literal {s : String} (quotes : ¬ ('"' ∈ s.toList ∧ '\x27' ∈ s.toList))
      (free : '\x7d' ∉ s.toList) : IsLiteral s := ⟨quotes, noPair_of_not_mem free⟩
  have text {t : String} (filled : t ≠ "") (ends : t.toList.getLast? ≠ some '\x7b')
      (opening : NoPair '\x7b' t.toList) : (Node.text t).WellFormed := ⟨filled, opening, ends⟩
  have dear := text (t := "\x7d Dear ") (by decide) (by decide) (noPair_of_not_mem (by decide))
  have x := text (t := "x") (by decide) (by decide) (noPair_of_not_mem (by decide))
  have brace := text (t := " \x7b ") (by decide) (by decide)
    ((noPair_append_cons (s := [' ', '\x7b']) (by decide)).2 ⟨(noPair_cons (by decide)).2
      noPair_singleton, noPair_nil⟩)
  have upper : (Expression.var "name" (some "upper")).WellFormed := by
    refine ⟨by decide, name (by decide) (by decide) (by decide), ?_⟩
    rintro _ ⟨⟩
    exact name (by decide) (by decide) (by decide)
  have rows : (Node.each "rows" [.text "x"]).WellFormed :=
    ⟨name (by decide) (by decide) (by decide), x, trivial, by simp⟩
  have block : (Node.when (.includes "tags" "it's \x7b\x7b")
      [.each "rows" [.text "x"], .text " \x7b "]).WellFormed :=
    ⟨⟨name (by decide) (by decide) (by decide), literal (by decide) (by decide)⟩,
      rows, ⟨brace, trivial, by simp⟩, by simp [Node.isText]⟩
  have choice : (Expression.ternary "a.b" "1" (.path "c") (.literal "")).WellFormed :=
    ⟨by decide, name (by decide) (by decide) (by decide), literal (by decide) (by decide),
      name (by decide) (by decide) (by decide), literal (by decide) (by decide)⟩
  refine parse_print ⟨dear, ⟨upper, ⟨block, ⟨choice, trivial, by simp⟩, ?_⟩, ?_⟩, ?_⟩ <;>
    simp [Node.isText]

end MinuteBook.Markup
