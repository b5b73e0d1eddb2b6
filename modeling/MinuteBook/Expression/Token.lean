import MinuteBook.Text.Blank

/-!
# Tokens of expressions

An expression between braces consists of quoted literals, operators and words, with blanks where
one likes. A word is a run of characters that are neither blank nor part of an operator or quote;
a literal ends at the next quote of the kind that opened it.
-/

namespace MinuteBook

inductive Operator where
  | equal
  | question
  | colon
  | bar
  | openParen
  | closeParen
  deriving DecidableEq

namespace Operator

def text : Operator → String
  | .equal => "=="
  | .question => "?"
  | .colon => ":"
  | .bar => "|"
  | .openParen => "("
  | .closeParen => ")"

end Operator

inductive Token where
  | literal (s : String)
  | op (o : Operator)
  | word (s : String)
  deriving DecidableEq

namespace Token

/-- The text of a token, a literal's without its quotes. -/
def text : Token → String
  | .literal s => s
  | .op o => o.text
  | .word s => s

def isQuote (c : Char) : Bool := c == '\x27' || c == '"'

/-- A character that a word may hold. -/
def isWordChar (c : Char) : Bool :=
  !(Text.isBlank c || isQuote c || c == '=' || c == '?' || c == ':' || c == '|' || c == '(' ||
    c == ')')

/-- The operator at the front of a text, and the rest. -/
def operator? : List Char → Option (Operator × List Char)
  | '=' :: '=' :: r => some (.equal, r)
  | '?' :: r => some (.question, r)
  | ':' :: r => some (.colon, r)
  | '|' :: r => some (.bar, r)
  | '(' :: r => some (.openParen, r)
  | ')' :: r => some (.closeParen, r)
  | _ => none

/-- The token at the front of a text, and the rest. -/
def next? (s : List Char) : Option (Token × List Char) :=
  match s with
  | [] => none
  | c :: r =>
    if isQuote c then
      match r.dropWhile (· != c) with
      | [] => none
      | _ :: rest => some (.literal (String.ofList (r.takeWhile (· != c))), rest)
    else if isWordChar c then
      some (.word (String.ofList (c :: r.takeWhile isWordChar)), r.dropWhile isWordChar)
    else (operator? (c :: r)).map fun o => (.op o.1, o.2)

theorem length_operator?_lt {s rest : List Char} {o : Operator}
    (h : operator? s = some (o, rest)) : rest.length < s.length := by
  unfold operator? at h
  split at h <;> cases h <;> simp only [List.length_cons] <;> omega

theorem length_next?_lt {s rest : List Char} {t : Token} (h : next? s = some (t, rest)) :
    rest.length < s.length := by
  cases s with
  | nil => simp [next?] at h
  | cons c r =>
    simp only [next?] at h
    split at h
    · split at h
      · simp at h
      · rename_i heq
        simp only [Option.some.injEq, Prod.mk.injEq] at h
        have := (List.dropWhile_suffix (l := r) (· != c)).length_le
        rw [heq] at this
        simp only [List.length_cons] at this ⊢
        rw [← h.2]; omega
    · split at h
      · simp only [Option.some.injEq, Prod.mk.injEq] at h
        have := (List.dropWhile_suffix (l := r) isWordChar).length_le
        simp only [List.length_cons]
        rw [← h.2]; omega
      · obtain ⟨⟨o, rest'⟩, ho, he⟩ := Option.map_eq_some_iff.1 h
        simp only [Prod.mk.injEq] at he
        exact he.2 ▸ length_operator?_lt ho

/-- The tokens of a text that does not begin with a blank. An error is the place of the character
at which no token begins. -/
def scan (place : Nat) (s : List Char) : Except Nat (List Token) :=
  if s = [] then .ok []
  else match _h : next? s with
    | none => .error place
    | some (t, rest) => do
      let after := Text.dropBlanks rest
      return t :: (← scan (place + (s.length - after.length)) after)
termination_by s.length
decreasing_by
  exact Nat.lt_of_le_of_lt (Text.length_dropBlanks_le rest) (length_next?_lt _h)

end Token

end MinuteBook
