import MinuteBook.Form.Rules
import MinuteBook.Proofs.Markup.Composition

/-!
# Conditions of fields and tests of blocks

A field is shown if its condition holds, and a section of a document is printed if the test of its
block holds. The two are read and decided in ways of their own, and a choice between two literals in
a third way. For conditions and tests that ask the same of the same path they all come out the same
(`conditions_agree`): always, if it is asked whether a list includes a text, and if it is asked
whether something equals a text, wherever there is a text, a mapping, null, or nothing.
-/

namespace MinuteBook

open Markup

variable {p n : String} {q : Char} {s : Store}

/-! ## What is asked -/

namespace Condition

/-- The list at a path includes a text. -/
def including (p n : String) : Condition where
  field := .text p
  equals := .null
  includes := .text n

/-- The answer at a path equals a text. -/
def equalling (p n : String) : Condition where
  field := .text p
  equals := .text n
  includes := .null

end Condition

/-- A text between two quotes. -/
def between (q : Char) (n : String) : String := String.singleton q ++ n ++ String.singleton q

/-- The test whether the list at a path includes a text. -/
def includesTest (p : String) (q : Char) (n : String) : String :=
  p ++ ".includes(" ++ between q n ++ ")"

/-- The test whether the answer at a path equals a text. -/
def equalsTest (p : String) (q : Char) (n : String) : String := p ++ " == " ++ between q n

/-- A tag that prints an X if the answer at a path equals a text, and nothing otherwise. -/
def choiceTag (p : String) (q : Char) (n : String) : String :=
  "\x7b\x7b" ++ equalsTest p q n ++ " ? " ++ between '\x27' "X" ++ " : " ++ between '\x27' "" ++
    "\x7d\x7d"

/-! ## Reading -/

theorem toList_between (q : Char) (n : String) :
    (between q n).toList = q :: (n.toList ++ [q]) := by
  simp [between]

theorem written_between (quote : Token.isQuote q = true) (free : q ∉ n.toList) :
    (Token.literal n).Written (between q n).toList := by
  have literal := Token.Written.literal quote free
  rwa [String.ofList_toList, ← toList_between] at literal

theorem noPair_between (quote : Token.isQuote q = true) (closing : NoPair '\x7d' n.toList) :
    NoPair '\x7d' (between q n).toList := by
  rw [toList_between]
  exact Token.noPair_between quote closing

theorem toList_includesTest (p : String) (q : Char) (n : String) : (includesTest p q n).toList =
    (p.toList ++ Test.includesSuffix) ++ ('(' :: ((between q n).toList ++ [')'])) := by
  have word : ".includes(".toList = Test.includesSuffix ++ ['('] := by rfl
  have last : ")".toList = [')'] := by rfl
  rw [includesTest, String.toList_append, String.toList_append, String.toList_append, word, last]
  simp only [List.append_assoc, List.cons_append, List.nil_append]

theorem toList_equalsTest (p : String) (q : Char) (n : String) :
    (equalsTest p q n).toList = p.toList ++ (" == ".toList ++ (between q n).toList) := by
  rw [equalsTest, String.toList_append, String.toList_append, List.append_assoc]

/-- What stands between the braces of a choice. -/
def choiceText (p : String) (q : Char) (n : String) : List Char :=
  p.toList ++ (" == ".toList ++ ((between q n).toList ++ (" ? ".toList ++
    ((between '\x27' "X").toList ++ (" : ".toList ++ (between '\x27' "").toList)))))

theorem toList_choiceTag (p : String) (q : Char) (n : String) :
    (choiceTag p q n).toList = (Segment.tag (choiceText p q n)).source := by
  have first : "\x7b\x7b".toList = ['\x7b', '\x7b'] := by rfl
  have last : "\x7d\x7d".toList = ['\x7d', '\x7d'] := by rfl
  rw [choiceTag, Segment.source, choiceText]
  simp only [String.toList_append, toList_equalsTest, first, last, List.append_assoc,
    List.cons_append, List.nil_append]

section

variable (name : IsName p) (quote : Token.isQuote q = true) (free : q ∉ n.toList)

include name quote free

theorem parse_includesTest : Test.parse (includesTest p q n) = .ok (.includes p n) := by
  refine Test.parse_eq_ok_iff.2 ⟨_, Test.form_written (.includes p n), ?_⟩
  rw [toList_includesTest]
  exact Test.spells_includes name (written_between quote free)

theorem parse_equalsTest : Test.parse (equalsTest p q n) = .ok (.equals p n) := by
  refine Test.parse_eq_ok_iff.2 ⟨_, Test.form_written (.equals p n), ?_⟩
  rw [toList_equalsTest]
  exact Test.spells_equals name (written_between quote free)

theorem spells_choiceText :
    Token.Spells (Expression.written (.ternary p n (.literal "X") (.literal "")))
      (choiceText p q n) := by
  have single : Token.isQuote '\x27' = true := by decide
  exact Expression.spells_ternary name (written_between quote free)
    (written_between single (by decide)) (written_between single (by decide))

/-- The word before the comparison is the path, whether or not it closes a block elsewhere. -/
theorem tagStep_choiceText (opens : p ≠ "#if" ∧ p ≠ "#each") :
    tagStep (choiceText p q n) =
      .leaf (.expression (.ternary p n (.literal "X") (.literal ""))) := by
  have spelled := (spells_choiceText name quote free).strip
  have head : ((Text.strip (choiceText p q n)).takeWhile fun c => !Text.isBlank c) = p.toList :=
    (strip_word_append name.word _).1
  have compared : '=' ∈ Text.strip (choiceText p q n) :=
    spelled.text_subset (.op .equal) (by simp [Expression.written]) (by decide)
  apply tagStep_leaf
  · refine Expression.parse_eq_ok_iff.2 ⟨_, Expression.form_written _, ?_⟩
    rwa [String.toList_ofList]
  · rw [head]
    simp only [List.forall_mem_cons, ne_eq, String.toList_inj]
    exact ⟨opens.1, opens.2, List.forall_mem_nil _⟩
  · have other {word : String} (plain : '=' ∉ word.toList) :
        Text.strip (choiceText p q n) ≠ word.toList := by
      intro same
      exact plain (same ▸ compared)
    simp only [List.forall_mem_cons]
    exact ⟨other (by decide), other (by decide), List.forall_mem_nil _⟩

end

section

variable (name : IsName p) (quote : Token.isQuote q = true) (closing : NoPair '\x7d' n.toList)

include name quote closing

theorem sealed_includesTest : Sealed '\x7d' (includesTest p q n).toList := by
  rw [toList_includesTest]
  refine ⟨Test.noPair_includes name (noPair_between quote closing), ?_⟩
  rw [← List.cons_append, ← List.append_assoc, List.getLast?_concat]
  decide

theorem sealed_equalsTest : Sealed '\x7d' (equalsTest p q n).toList := by
  have other : q ≠ '\x7d' := by
    rintro rfl
    exact absurd quote (by decide)
  rw [toList_equalsTest]
  refine ⟨Token.noPair_infix .equal name.closing (noPair_between quote closing), ?_⟩
  rw [toList_between, ← List.cons_append, ← List.append_assoc, ← List.append_assoc,
    List.getLast?_concat]
  simpa using other

theorem sealed_choiceText : Sealed '\x7d' (choiceText p q n) := by
  have single : Token.isQuote '\x27' = true := by decide
  have yes := noPair_between (n := "X") single (noPair_of_not_mem (by decide))
  have no := noPair_between (n := "") single noPair_nil
  have branches := Token.noPair_infix .colon yes no
  have compared := Token.noPair_infix .question (noPair_between quote closing) branches
  refine ⟨Token.noPair_infix .equal name.closing compared, ?_⟩
  have last : (between '\x27' "").toList.getLast? = some '\x27' := by rfl
  simp only [choiceText, List.getLast?_append, last, Option.some_or]
  decide

end

/-! ## Deciding -/

/-- A condition and a test come out the same: a field with the condition is shown exactly if a block
with the test prints its section. -/
structure Agree (c : Condition) (test : String) (s : Store) (b : Bool) : Prop where
  condition : c.holds s = .ok b
  field : ∀ f : Field, f.hidden = false → f.visibleIf = some c → f.isVisible s = .ok b
  block : ∀ filters body, Closed body →
    render filters (whenBlock test body) s = if b then render filters body s else .ok ""

variable {b : Bool}

theorem agree_of_holds {c : Condition} {source : String} {test : Test}
    (condition : c.holds s = .ok b) (reads : Test.parse source = .ok test)
    (whole : Sealed '\x7d' source.toList) (holds : test.holds s = .ok b) : Agree c source s b where
  condition := condition
  field := by
    intro f visible rule
    rw [Field.isVisible, visible, rule]
    exact condition
  block := by
    intro filters body closed
    rw [render_when_of_sealed closed reads whole, holds, ok_bind]
    cases b <;> rfl

/-- A section that is an X. -/
theorem Agree.mark {c : Condition} {source : String} (h : Agree c source s b) (filters : Filters) :
    render filters (whenBlock source "X") s = .ok (if b then "X" else "") := by
  have free : Sealed '\x7b' "X".toList := sealed_of_not_mem (by decide)
  rw [h.block filters "X" (closed_text free), render_text free.1]
  cases b <;> rfl

/-! ### Inclusion -/

theorem agreesWithAny_text_iff {items : List Value} :
    (Value.text n).agreesWithAny items = true ↔ .text n ∈ items := by
  rw [Value.agreesWithAny, List.any_eq_true]
  constructor
  · rintro ⟨w, inside, same⟩
    exact Value.agrees_text_iff.1 same ▸ inside
  · intro inside
    exact ⟨.text n, inside, Value.agrees_text_iff.2 rfl⟩

namespace Store

/-- The list at a path includes a text. -/
def includesText (s : Store) (p n : String) : Bool :=
  match s.lookup p with
  | some (.list items) => (Value.text n).agreesWithAny items
  | _ => false

theorem includesText_iff :
    s.includesText p n = true ↔ ∃ items, s.lookup p = some (.list items) ∧ .text n ∈ items := by
  unfold includesText
  split
  · rename_i items found
    simp [found, agreesWithAny_text_iff]
  · rename_i other
    simp only [Bool.false_eq_true, false_iff, not_exists, not_and]
    intro items found
    exact absurd found (other items)

end Store

theorem holds_including (s : Store) (p n : String) :
    (Condition.including p n).holds s = .ok (s.includesText p n) := by
  have path : s.lookupAt (.text p) = .ok (s.lookup p) := rfl
  rw [Condition.holds, Condition.including, path, ok_bind, Store.includesText]
  cases s.lookup p with
  | none => rfl
  | some v => cases v <;> rfl

theorem holds_includes (filled : p ≠ "") (single : ∀ vs, s.lookup p ≠ some (.tuple vs)) :
    (Test.includes p n).holds s = .ok (s.includesText p n) := by
  rw [Test.holds, Test.path, if_neg filled, Store.lookupOrNull, Store.includesText]
  cases found : s.lookup p with
  | none => rfl
  | some v =>
      cases v with
      | tuple vs => exact absurd found (single vs)
      | _ => rfl

/-! ### Equality -/

namespace Store

/-- There is a text, a mapping, null or nothing at a path. -/
def Comparable (s : Store) (p : String) : Prop :=
  ∀ v, s.lookup p = some v → v = .null ∨ (∃ t, v = .text t) ∨ ∃ es, v = .mapping es

/-- The text at a path is the given one. -/
def equalsText (s : Store) (p n : String) : Bool := s.lookup p = some (.text n)

/-- What is printed is a text that is not empty, if and only if it is there. -/
theorem Comparable.plain (h : s.Comparable p) (filled : n ≠ "") :
    ∃ t, s.plain p = .ok t ∧ decide (t = n) = s.equalsText p n := by
  rw [Store.plain, lookupOrNull, equalsText]
  cases found : s.lookup p with
  | none => exact ⟨"", rfl, by simp [Ne.symm filled]⟩
  | some v =>
      rcases h v found with rfl | ⟨t, rfl⟩ | ⟨es, rfl⟩
      · exact ⟨"", rfl, by simp [Ne.symm filled]⟩
      · exact ⟨t, rfl, by simp⟩
      · exact ⟨"", rfl, by simp [Ne.symm filled]⟩

end Store

theorem holds_equalling (h : s.Comparable p) :
    (Condition.equalling p n).holds s = .ok (s.equalsText p n) := by
  have path : s.lookupAt (.text p) = .ok (s.lookup p) := rfl
  rw [Condition.holds, Condition.equalling, path, ok_bind, Store.equalsText]
  cases found : s.lookup p with
  | none => rfl
  | some v =>
      rcases h v found with rfl | ⟨t, rfl⟩ | ⟨es, rfl⟩
      · rfl
      · have same : decide (some (Value.text t) = some (.text n)) = (t == n) := by
          rw [Bool.eq_iff_iff]
          simp
        rw [same]
        rfl
      · rfl

theorem holds_equals (filled : p ≠ "") (h : s.Comparable p) (filled' : n ≠ "") :
    (Test.equals p n).holds s = .ok (s.equalsText p n) := by
  obtain ⟨t, printed, same⟩ := h.plain filled'
  rw [Test.holds, Test.path, if_neg filled]
  simp only [printed, ok_bind, ← same]
  rfl

theorem render_choice (h : s.Comparable p) (filled : n ≠ "") (filters : Filters) :
    (Expression.ternary p n (.literal "X") (.literal "")).render filters s =
      .ok (if s.equalsText p n then "X" else "") := by
  obtain ⟨t, printed, same⟩ := h.plain filled
  rw [Expression.render, printed, ok_bind, ← same]
  by_cases equal : t = n
  · simp [equal, Operand.render]
  · simp [equal, Operand.render]

/-! ## Agreement -/

/-- A condition of a field, the test of a block and a choice that ask the same come out the same:
whether the list at a path includes a text, for all but tuples, and whether the answer at a path
equals a text that is not empty, where the answer is a text, a mapping, null or absent. The path may
be any name that does not open a block itself, and the text may stand in any quotes that it does not
hold. -/
theorem conditions_agree (name : IsName p) (opens : p ≠ "#if" ∧ p ≠ "#each")
    (quote : Token.isQuote q = true) (free : q ∉ n.toList) (closing : NoPair '\x7d' n.toList)
    (s : Store) :
    ((∀ vs, s.lookup p ≠ some (.tuple vs)) → ∃ b : Bool,
      (b = true ↔ ∃ items, s.lookup p = some (.list items) ∧ .text n ∈ items) ∧
      Agree (.including p n) (includesTest p q n) s b ∧
      ∀ filters, render filters (whenBlock (includesTest p q n) "X") s =
        .ok (if b then "X" else "")) ∧
    (n ≠ "" → s.Comparable p → ∃ b : Bool,
      (b = true ↔ s.lookup p = some (.text n)) ∧
      Agree (.equalling p n) (equalsTest p q n) s b ∧
      ∀ filters, render filters (whenBlock (equalsTest p q n) "X") s =
          .ok (if b then "X" else "") ∧
        render filters (choiceTag p q n) s = .ok (if b then "X" else "")) := by
  have filled : p ≠ "" := by
    rintro rfl
    exact name.word.filled rfl
  constructor
  · intro single
    have agree : Agree (.including p n) (includesTest p q n) s (s.includesText p n) :=
      agree_of_holds (holds_including s p n) (parse_includesTest name quote free)
        (sealed_includesTest name quote closing) (holds_includes filled single)
    exact ⟨_, Store.includesText_iff, agree, agree.mark⟩
  · intro asked comparable
    have agree : Agree (.equalling p n) (equalsTest p q n) s (s.equalsText p n) :=
      agree_of_holds (holds_equalling comparable) (parse_equalsTest name quote free)
        (sealed_equalsTest name quote closing) (holds_equals filled comparable asked)
    refine ⟨s.equalsText p n, decide_eq_true_iff, agree, fun filters => ⟨agree.mark filters, ?_⟩⟩
    rw [render_leaf (toList_choiceTag p q n) (sealed_choiceText name quote closing)
      (tagStep_choiceText name quote free opens), render_choice comparable asked]

/-- For instance, a text with a quote that is one of several, and the same text alone. -/
theorem conditions_agree_on_powers :
    let store : Store :=
      ⟨[("powers", .list [.text "wire", .text "it's"]), ("note", .text "it's")], []⟩
    let powers := includesTest "powers" '"' "it's"
    (Condition.including "powers" "it's").holds store = .ok true ∧
      render [] (whenBlock powers "X") store = .ok "X" ∧
      (Condition.equalling "note" "it's").holds store = .ok true ∧
      render [] (choiceTag "note" '"' "it's") store = .ok "X" := by
  intro store powers
  have name {p : String} (filled : p.toList ≠ []) (chars : p.toList.all Token.isWordChar = true)
      (free : '\x7d' ∉ p.toList) : IsName p :=
    ⟨⟨filled, List.all_eq_true.1 chars⟩, noPair_of_not_mem free⟩
  have list : store.lookup "powers" = some (.list [.text "wire", .text "it's"]) := by
    decide +kernel
  have text : store.lookup "note" = some (.text "it's") := by decide +kernel
  have quote : Token.isQuote '"' = true := by decide
  have free : '"' ∉ "it's".toList := by decide
  have closing : NoPair '\x7d' "it's".toList := noPair_of_not_mem (by decide)
  obtain ⟨b, asked, agree, printed⟩ :=
    (conditions_agree (name (p := "powers") (by decide) (by decide) (by decide)) (by decide) quote
      free closing store).1 (by simp [list])
  obtain ⟨b', asked', agree', printed'⟩ :=
    (conditions_agree (name (p := "note") (by decide) (by decide) (by decide)) (by decide) quote
      free closing store).2 (by decide) (by simp [Store.Comparable, text])
  obtain rfl := asked.2 ⟨_, list, by simp⟩
  obtain rfl := asked'.2 text
  exact ⟨agree.condition, printed [], agree'.condition, (printed' []).2⟩

end MinuteBook
