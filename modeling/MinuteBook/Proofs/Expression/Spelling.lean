import MinuteBook.Proofs.Expression.Grammar
import MinuteBook.Proofs.Markup.Segments

/-!
# Expressions as they are written

An expression is written with its literals in quotes and one blank on each side of an operator. It
is read back as it was, provided that its paths and filters are names and its literals are free of
one of the two quotes: what is written spells the tokens of the expression
(`Expression.spells_source`).
-/

namespace MinuteBook

namespace Token

/-! ## Quotes -/

/-- The quote round a literal: `"`, unless the literal holds it. -/
def quoteFor (s : List Char) : Char := if '"' ∈ s then '\x27' else '"'

/-- A literal in quotes. -/
def quote (s : List Char) : List Char := quoteFor s :: (s ++ [quoteFor s])

theorem isQuote_quoteFor (s : List Char) : isQuote (quoteFor s) = true := by
  unfold quoteFor
  split <;> rfl

theorem written_quote {s : List Char} (free : ¬ ('"' ∈ s ∧ '\x27' ∈ s)) :
    Written (.literal (String.ofList s)) (quote s) := by
  refine .literal (isQuote_quoteFor s) ?_
  unfold quoteFor
  split
  · rename_i double
    exact fun single => free ⟨double, single⟩
  · rename_i double
    exact double

end Token

/-! ## What is written -/

/-- A path or the name of a filter, as it can stand between braces: characters of a word, without a
pair of closing braces. -/
structure IsName (s : String) : Prop where
  word : Token.IsWord s.toList
  closing : Markup.NoPair '\x7d' s.toList

/-- A literal that can stand between quotes and braces. -/
structure IsLiteral (s : String) : Prop where
  quotes : ¬ ('"' ∈ s.toList ∧ '\x27' ∈ s.toList)
  closing : Markup.NoPair '\x7d' s.toList

/-- The words that open and close blocks. -/
def blockWords : List String := ["#if", "#each", "/if", "/each"]

namespace Operand

def source : Operand → List Char
  | .path p => p.toList
  | .literal s => Token.quote s.toList

def WellFormed : Operand → Prop
  | .path p => IsName p
  | .literal s => IsLiteral s

end Operand

namespace Expression

def source : Expression → List Char
  | .var path none => path.toList
  | .var path (some filter) => path.toList ++ (" | ".toList ++ filter.toList)
  | .ternary lhs literal yes no =>
    lhs.toList ++ (" == ".toList ++ (Token.quote literal.toList ++ (" ? ".toList ++
      (yes.source ++ (" : ".toList ++ no.source)))))

/-- The path with which an expression begins. -/
def first : Expression → String
  | .var path _ => path
  | .ternary lhs _ _ _ => lhs

/-- An expression that can be written: it does not begin like the tag of a block. -/
def WellFormed (e : Expression) : Prop :=
  e.first ∉ blockWords ∧ match e with
    | .var path filter => IsName path ∧ ∀ name ∈ filter, IsName name
    | .ternary lhs literal yes no =>
      IsName lhs ∧ IsLiteral literal ∧ yes.WellFormed ∧ no.WellFormed

end Expression

namespace Test

def source : Test → List Char
  | .truthy path => path.toList
  | .includes path needle =>
    (path.toList ++ includesSuffix) ++ ('(' :: (Token.quote needle.toList ++ [')']))
  | .equals path literal => path.toList ++ (" == ".toList ++ Token.quote literal.toList)

def WellFormed : Test → Prop
  | .truthy path => IsName path
  | .includes path needle => IsName path ∧ IsLiteral needle
  | .equals path literal => IsName path ∧ IsLiteral literal

end Test

/-! ## Reading what is written -/

namespace Token

variable {t : Token} {ts : List Token} {w r : List Char}

/-- No blank is needed where a token and the next are not both words. -/
theorem Spells.before (rest : Spells ts r) (first : t.Written w)
    (apart : ∀ u v, t = .word u → ts.head? ≠ some (.word v)) : Spells (t :: ts) (w ++ r) :=
  .cons gap_nil first (fun u v word next => absurd next (apart u v word)) rest

theorem Written.spells (first : t.Written w) : Spells [t] w := by
  have alone := (Spells.nil gap_nil).before first (by simp)
  rwa [List.append_nil] at alone

/-- An operator with a blank on each side, and a token before it. -/
theorem Spells.spaced (rest : Spells ts r) (first : t.Written w) (o : Operator) :
    Spells (t :: .op o :: ts) (w ++ (' ' :: (o.text.toList ++ ' ' :: r))) := by
  have behind : Spells ts (' ' :: r) := rest.gap_append gap_space
  have operator : Spells (.op o :: ts) (' ' :: (o.text.toList ++ ' ' :: r)) :=
    (behind.before (.op o) (by simp)).gap_append gap_space
  exact operator.before first (by simp)

end Token

theorem IsName.written {s : String} (h : IsName s) : (Token.word s).Written s.toList := by
  have word := Token.Written.word h.word
  rwa [String.ofList_toList] at word

theorem IsName.tokens {s : String} (h : IsName s) : Expression.tokens s = .ok [.word s] :=
  Expression.tokens_eq_ok_iff.2 h.written.spells

theorem IsLiteral.written {s : String} (h : IsLiteral s) :
    (Token.literal s).Written (Token.quote s.toList) := by
  have literal := Token.written_quote h.quotes
  rwa [String.ofList_toList] at literal

theorem Operand.written_source {o : Operand} (h : o.WellFormed) : o.token.Written o.source := by
  cases o with
  | path p => exact IsName.written h
  | literal s => exact IsLiteral.written h

namespace Expression

/-- The tokens of an expression. -/
def written : Expression → List Token
  | .var path none => [.word path]
  | .var path (some filter) => [.word path, .op .bar, .word filter]
  | .ternary lhs literal yes no =>
    [.word lhs, .op .equal, .literal literal, .op .question, yes.token, .op .colon, no.token]

theorem form_written (e : Expression) : e.Form e.written := by
  cases e with
  | var path filter =>
      cases filter with
      | none => exact .path path
      | some filter => exact .filtered path filter
  | ternary lhs literal yes no => exact .ternary lhs (.literal literal) yes no

/-- A choice between two operands, with a literal in quotes of either sort. -/
theorem spells_ternary {path literal : String} {yes no : Operand} {w left right : List Char}
    (name : IsName path) (compared : (Token.literal literal).Written w)
    (first : yes.token.Written left) (second : no.token.Written right) :
    Token.Spells (written (.ternary path literal yes no))
      (path.toList ++ (" == ".toList ++ (w ++ (" ? ".toList ++ (left ++
        (" : ".toList ++ right)))))) :=
  ((second.spells.spaced first .colon).spaced compared .question).spaced name.written .equal

theorem spells_source {e : Expression} (h : e.WellFormed) : Token.Spells e.written e.source := by
  cases e with
  | var path filter =>
      obtain ⟨-, name, names⟩ := h
      cases filter with
      | none => exact name.written.spells
      | some filter => exact (names filter rfl).written.spells.spaced name.written .bar
  | ternary lhs literal yes no =>
      obtain ⟨-, name, free, left, right⟩ := h
      exact spells_ternary name free.written (Operand.written_source left)
        (Operand.written_source right)

/-- A well-formed expression is read back. -/
theorem parse_source {e : Expression} (h : e.WellFormed) :
    parse (String.ofList e.source) = .ok e := by
  refine parse_eq_ok_iff.2 ⟨e.written, e.form_written, ?_⟩
  rw [String.toList_ofList]
  exact spells_source h

end Expression

namespace Test

variable {t : Test}

/-- The tokens of a test. -/
def written : Test → List Token
  | .truthy path => [.word path]
  | .includes path needle =>
    [.word (String.ofList (path.toList ++ includesSuffix)), .op .openParen, .literal needle,
      .op .closeParen]
  | .equals path literal => [.word path, .op .equal, .literal literal]

theorem form_written (t : Test) : t.Form t.written := by
  cases t with
  | truthy path => exact .truthy path
  | includes path needle =>
      rw [written, ← append_includes]
      exact .includes path (.literal needle)
  | equals path literal => exact .equals path (.literal literal)

/-- A test of inclusion, with a literal in quotes of either sort. -/
theorem spells_includes {path needle : String} {w : List Char} (name : IsName path)
    (literal : (Token.literal needle).Written w) :
    Token.Spells (written (.includes path needle))
      ((path.toList ++ includesSuffix) ++ ('(' :: (w ++ [')']))) := by
  have word : Token.IsWord (path.toList ++ includesSuffix) := by
    refine ⟨List.append_ne_nil_of_left_ne_nil name.word.filled _, fun c inside => ?_⟩
    have suffix : ∀ c ∈ includesSuffix, Token.isWordChar c = true :=
      List.all_eq_true.1 (by rfl)
    rcases List.mem_append.1 inside with base | later
    · exact name.word.chars c base
    · exact suffix c later
  have closing := (Token.Written.op .closeParen).spells
  have opening := (closing.before literal (by simp)).before (.op .openParen) (by simp)
  exact opening.before (.word word) (by simp)

/-- A test of equality, with a literal in quotes of either sort. -/
theorem spells_equals {path literal : String} {w : List Char} (name : IsName path)
    (compared : (Token.literal literal).Written w) :
    Token.Spells (written (.equals path literal)) (path.toList ++ (" == ".toList ++ w)) :=
  compared.spells.spaced name.written .equal

theorem spells_source (h : t.WellFormed) : Token.Spells t.written t.source := by
  cases t with
  | truthy path => exact IsName.written h |>.spells
  | includes path needle => exact spells_includes h.1 h.2.written
  | equals path literal => exact spells_equals h.1 h.2.written

/-- A well-formed test is read back. -/
theorem parse_source (h : t.WellFormed) : parse (String.ofList t.source) = .ok t := by
  refine parse_eq_ok_iff.2 ⟨t.written, t.form_written, ?_⟩
  rw [String.toList_ofList]
  exact spells_source h

end Test

/-! ## Ends of what is written -/

namespace Token

variable {s r : List Char}

/-- Quotes are no braces. -/
theorem noPair_between {q : Char} (quote : isQuote q = true) (h : Markup.NoPair '\x7d' s) :
    Markup.NoPair '\x7d' (q :: (s ++ [q])) := by
  have other : q ≠ '\x7d' := by
    rintro rfl
    exact absurd quote (by decide)
  rw [Markup.noPair_cons other, Markup.noPair_append_cons other]
  exact ⟨h, Markup.noPair_nil⟩

theorem noPair_quote (h : Markup.NoPair '\x7d' s) : Markup.NoPair '\x7d' (quote s) :=
  noPair_between (isQuote_quoteFor s) h

/-- Nor is an operator with a blank on each side. -/
theorem noPair_infix (o : Operator) (h : Markup.NoPair '\x7d' s) (h' : Markup.NoPair '\x7d' r) :
    Markup.NoPair '\x7d' (s ++ (' ' :: (o.text.toList ++ ' ' :: r))) := by
  rw [Markup.noPair_append_cons (by decide)]
  refine ⟨h, ?_⟩
  have behind : Markup.NoPair '\x7d' (' ' :: r) := (Markup.noPair_cons (by decide)).2 h'
  cases o with
  | equal =>
      exact (Markup.noPair_cons (by decide)).2 ((Markup.noPair_cons (by decide)).2 behind)
  | question => exact (Markup.noPair_cons (by decide)).2 behind
  | colon => exact (Markup.noPair_cons (by decide)).2 behind
  | bar => exact (Markup.noPair_cons (by decide)).2 behind
  | openParen => exact (Markup.noPair_cons (by decide)).2 behind
  | closeParen => exact (Markup.noPair_cons (by decide)).2 behind

end Token

theorem IsName.endsFirm {s : String} (h : IsName s) : Text.EndsFirm s.toList :=
  h.written.endsFirm

namespace Operand

variable {o : Operand}

theorem endsFirm (h : o.WellFormed) : Text.EndsFirm o.source :=
  (written_source h).endsFirm

theorem noPair (h : o.WellFormed) : Markup.NoPair '\x7d' o.source := by
  cases o with
  | path p => exact IsName.closing h
  | literal s => exact Token.noPair_quote (IsLiteral.closing h)

end Operand

namespace Expression

variable {e : Expression}

theorem trimmed (h : e.WellFormed) : Text.Trimmed e.source := by
  cases e with
  | var path filter =>
      obtain ⟨-, name, names⟩ := h
      cases filter with
      | none => exact name.word.trimmed
      | some filter =>
          exact ⟨name.word.front _, (((names filter rfl).endsFirm.append _).append _).2⟩
  | ternary lhs literal yes no =>
      obtain ⟨-, name, free, left, right⟩ := h
      have alternative := (Operand.endsFirm right).append " : ".toList
      have choice := (alternative.append yes.source).append " ? ".toList
      have compared := (choice.append (Token.quote literal.toList)).append " == ".toList
      exact ⟨name.word.front _, (compared.append lhs.toList).2⟩

theorem noPair (h : e.WellFormed) : Markup.NoPair '\x7d' e.source := by
  cases e with
  | var path filter =>
      obtain ⟨-, name, names⟩ := h
      cases filter with
      | none => exact name.closing
      | some filter => exact Token.noPair_infix .bar name.closing (names filter rfl).closing
  | ternary lhs literal yes no =>
      obtain ⟨-, name, free, left, right⟩ := h
      have colon := Token.noPair_infix .colon (Operand.noPair left) (Operand.noPair right)
      have question := Token.noPair_infix .question (Token.noPair_quote free.closing) colon
      exact Token.noPair_infix .equal name.closing question

end Expression

namespace Test

variable {t : Test}

theorem noPair_includes {path : String} {w : List Char} (name : IsName path)
    (h : Markup.NoPair '\x7d' w) :
    Markup.NoPair '\x7d' ((path.toList ++ includesSuffix) ++ ('(' :: (w ++ [')']))) := by
  have opening : '(' ≠ '\x7d' := by decide
  have closing : ')' ≠ '\x7d' := by decide
  have dot : '.' ≠ '\x7d' := by decide
  have suffix : Markup.NoPair '\x7d' "includes".toList := Markup.noPair_of_not_mem (by decide)
  have cut : includesSuffix = '.' :: "includes".toList := by rfl
  have base : Markup.NoPair '\x7d' (path.toList ++ includesSuffix) := by
    rw [cut, Markup.noPair_append_cons dot]
    exact ⟨name.closing, suffix⟩
  rw [Markup.noPair_append_cons opening, Markup.noPair_append_cons closing]
  exact ⟨base, h, Markup.noPair_nil⟩

theorem noPair (h : t.WellFormed) : Markup.NoPair '\x7d' t.source := by
  cases t with
  | truthy path => exact h.closing
  | includes path needle => exact noPair_includes h.1 (Token.noPair_quote h.2.closing)
  | equals path literal =>
      exact Token.noPair_infix .equal h.1.closing (Token.noPair_quote h.2.closing)

end Test

end MinuteBook
